/-
# Values of TOML

The value behind a key reads back: a text, a truth value, an integer of 64 bits with a sign, or a
list of such, which stands on one line if it has at most one item and on several lines otherwise.

Main definitions:

* `Toml.IsValue` : the values that TOML tells exactly, with the depth to which lists nest;
* `Toml.Tells` : a text that is read as a value.

Main results:

* `skipLines_of_visible`, `skipLines_indented` : what is skipped between items;
* `items_lines` : the items of a list, each on a line of its own;
* `exists_valueText?` : a value has a text, and this is read as the value.
-/
import Mathlib.Data.List.Forall2
import Reachability.Document.Toml.Reader
import Reachability.Proofs.Document.Toml.Scalar
import Reachability.Proofs.Document.Toml.Text

namespace Reachability.Toml

/-! ## Exact values -/

/-- The values that TOML tells exactly.  Lists nest at most as deep as the number says. -/
inductive IsValue : Nat → Document → Prop
  | bool (depth : Nat) (b : Bool) : IsValue depth (.bool b)
  | integer (depth : Nat) {i : Int}
      (fits : Int64.minValue.toInt ≤ i ∧ i ≤ Int64.maxValue.toInt) : IsValue depth (.integer i)
  | text (depth : Nat) (s : String) : IsValue depth (.text s)
  | list {depth : Nat} {items : List Document} (inner : ∀ d ∈ items, IsValue depth d) :
      IsValue (depth + 1) (.list items)

/-! ## Between items -/

/-- A character that is no blank, begins no comment and ends no line. -/
def IsVisible (c : Char) : Prop := isBlank c = false ∧ c ≠ '#' ∧ c ≠ '\n' ∧ c ≠ '\r'

instance : DecidablePred IsVisible := fun c =>
  inferInstanceAs (Decidable (isBlank c = false ∧ c ≠ '#' ∧ c ≠ '\n' ∧ c ≠ '\r'))

section Skip

variable {c : Char} (visible : IsVisible c) (cs : List Char)
include visible

theorem skipBlanks_of_visible : skipBlanks (c :: cs) = c :: cs :=
  List.dropWhile_cons_of_neg (by simp [visible.1])

theorem skipComment_of_visible : skipComment (c :: cs) = c :: cs := by
  rw [skipComment]
  simp [visible.2.1]

theorem lineEnd?_of_visible : lineEnd? (c :: cs) = none := by
  rw [lineEnd?]
  · simp [visible.2.2.1]
  · simp [visible.2.2.2]

/-- Nothing visible is skipped. -/
theorem skipLines_of_visible (fuel : Nat) : skipLines fuel (c :: cs) = c :: cs := by
  cases fuel with
  | zero => rfl
  | succ fuel =>
    rw [skipLines, skipBlanks_of_visible visible, skipComment_of_visible visible,
      lineEnd?_of_visible visible]

/-- The blanks at the start of a line are skipped with the line end. -/
theorem skipLines_indented {fuel n : Nat} (enough : n < fuel) :
    skipLines fuel ('\n' :: (List.replicate n ' ' ++ c :: cs)) = c :: cs := by
  obtain ⟨fuel, rfl⟩ := Nat.exists_eq_succ_of_ne_zero (Nat.ne_zero_of_lt enough)
  have line : skipLines (fuel + 1) ('\n' :: (List.replicate n ' ' ++ c :: cs)) =
      skipLines fuel (List.replicate n ' ' ++ c :: cs) := rfl
  have margin : skipBlanks (List.replicate n ' ' ++ c :: cs) = c :: cs := by
    rw [skipBlanks, List.dropWhile_append_of_pos fun d there => by
      rw [List.eq_of_mem_replicate there]; rfl]
    exact skipBlanks_of_visible visible cs
  rw [line]
  cases fuel with
  | zero =>
    obtain rfl : n = 0 := by omega
    rfl
  | succ fuel =>
    rw [skipLines, margin, skipComment_of_visible visible, lineEnd?_of_visible visible]

end Skip

/-! ## Texts that are read as values -/

/-- A text is read as a value, whatever stands behind it; lists in it nest at most as deep as
the number says. -/
structure Tells (depth : Nat) (text : List Char) (d : Document) : Prop where
  begins : ∃ c more, text = c :: more ∧ IsVisible c ∧ c ≠ ']'
  reads : ∀ fuel room rest, text.length < fuel → depth ≤ room → EndsValue rest →
    value fuel room (text ++ rest) = .ok (d, rest)

theorem tells_bool (depth : Nat) (b : Bool) :
    Tells depth (if b then "true" else "false").toList (.bool b) := by
  constructor
  · cases b
    · exact ⟨_, _, rfl, by decide⟩
    · exact ⟨_, _, rfl, by decide⟩
  · intro fuel room rest enough _ _
    obtain ⟨fuel, rfl⟩ := Nat.exists_eq_succ_of_ne_zero (Nat.ne_zero_of_lt enough)
    cases b <;> rfl

theorem tells_ofInt (depth : Nat) {i : Int}
    (fits : Int64.minValue.toInt ≤ i ∧ i ≤ Int64.maxValue.toInt) :
    Tells depth (Decimal.ofInt i).toList (.integer i) := by
  obtain ⟨c, cs, parts, begins⟩ := Decimal.exists_toList_ofInt_eq_cons i
  have other {d : Char} := Decimal.ne_of_begins (d := d) begins
  constructor
  · have visible : isBlank c = false := by
      simp only [isBlank, Bool.or_eq_false_iff, beq_eq_false_iff_ne]
      exact ⟨other (by decide) rfl, other (by decide) rfl⟩
    exact ⟨c, cs, parts, ⟨visible, other (by decide) rfl, other (by decide) rfl,
      other (by decide) rfl⟩, other (by decide) rfl⟩
  · intro fuel room rest enough _ ends
    obtain ⟨fuel, rfl⟩ := Nat.exists_eq_succ_of_ne_zero (Nat.ne_zero_of_lt enough)
    have read := scalar_ofInt fits ends
    rw [parts, List.cons_append] at read ⊢
    rw [value]
    · exact read
    all_goals exact fun _ same => absurd (List.cons.inj same).1 (other (by decide) rfl)

/-- A string begins with a quote. -/
theorem exists_quoted_eq_cons (s : String) : ∃ q cs, (quoted s).toList = q :: cs ∧ IsQuote q := by
  have double {cs : List Char} : ∃ q more, '"' :: cs = q :: more ∧ IsQuote q :=
    ⟨_, _, rfl, .inl rfl⟩
  have single {cs : List Char} : ∃ q more, '\'' :: cs = q :: more ∧ IsQuote q :=
    ⟨_, _, rfl, .inr rfl⟩
  rw [quoted]
  simp only [apply_ite String.toList, String.toList_append, List.append_assoc]
  split
  · exact double
  split
  · exact single
  split
  · exact double
  split
  · exact single
  split
  · exact double
  · exact double

theorem EndsValue.endsString {rest : List Char} (ends : EndsValue rest) : EndsString rest := by
  cases ends <;> exact ⟨by simp, by simp⟩

theorem tells_quoted (depth : Nat) (s : String) : Tells depth (quoted s).toList (.text s) := by
  obtain ⟨q, cs, parts, kind⟩ := exists_quoted_eq_cons s
  constructor
  · refine ⟨q, cs, parts, ?_⟩
    rcases kind with rfl | rfl <;> decide
  · intro fuel room rest enough _ ends
    obtain ⟨fuel, rfl⟩ := Nat.exists_eq_succ_of_ne_zero (Nat.ne_zero_of_lt enough)
    have read := string_quoted s ends.endsString
    rw [parts, List.cons_append] at read ⊢
    rcases kind with rfl | rfl
    · rw [value, read]
      rfl
    · rw [value, read]
      rfl

/-! ## Lists -/

/-- The line of an item. -/
def itemLine (text : List Char) : List Char := List.replicate 4 ' ' ++ (text ++ [',', '\n'])

section Items

variable {depth room : Nat} (deep : depth ≤ room) (rest : List Char)
include deep

/-- One item and what stands behind it, once the margin in front is skipped. -/
theorem items_item {cs : List Char} {text : List Char} {d : Document} (told : Tells depth text d)
    {back : List Char} (skipped : skipLines cs.length cs = text ++ back) (ends : EndsValue back)
    {fuel : Nat} (enough : text.length < fuel) (taken : List Document) :
    items (fuel + 1) room taken cs =
      match skipLines back.length back with
      | ',' :: rest => items fuel room (d :: taken) rest
      | ']' :: rest => .ok (.list (d :: taken).reverse, rest)
      | rest => fail rest ["invalid array", "expected `]`"] := by
  obtain ⟨c, more, parts, visible, other⟩ := told.begins
  rw [items, skipped]
  split
  case h_1 closes =>
    rw [parts] at closes
    exact absurd (List.cons.inj closes).1 other
  case h_2 =>
    rw [told.reads fuel room back enough deep ends]
    rfl

/-- The items of a list, each on a line of its own. -/
theorem items_lines {texts : List (List Char)} {ds : List Document}
    (told : List.Forall₂ (Tells depth) texts ds) {fuel : Nat}
    (enough : (texts.flatMap itemLine).length < fuel) (taken : List Document) :
    items fuel room taken ('\n' :: (texts.flatMap itemLine ++ ']' :: rest)) =
      .ok (.list (taken.reverse ++ ds), rest) := by
  induction told generalizing fuel taken with
  | nil =>
    obtain ⟨fuel, rfl⟩ := Nat.exists_eq_succ_of_ne_zero (Nat.ne_zero_of_lt enough)
    have closes : IsVisible ']' := by decide
    have skipped : skipLines (rest.length + 2) ('\n' :: ']' :: rest) = ']' :: rest :=
      skipLines_indented closes rest (n := 0) (by omega)
    rw [List.flatMap_nil, List.nil_append, items, List.length_cons, List.length_cons, skipped,
      List.append_nil]
    rfl
  | @cons text d texts ds first told ih =>
    obtain ⟨fuel, rfl⟩ := Nat.exists_eq_succ_of_ne_zero (Nat.ne_zero_of_lt enough)
    obtain ⟨c, more, parts, visible, -⟩ := first.begins
    have comma : IsVisible ',' := by decide
    simp only [List.flatMap_cons, itemLine, List.length_append, List.length_cons,
      List.length_replicate] at enough
    have line : '\n' :: ((text :: texts).flatMap itemLine ++ ']' :: rest) =
        '\n' :: (List.replicate 4 ' ' ++
          (text ++ ',' :: '\n' :: (texts.flatMap itemLine ++ ']' :: rest))) := by
      simp [itemLine]
    have later := ih (show (texts.flatMap itemLine).length < fuel by omega) (d :: taken)
    generalize texts.flatMap itemLine ++ ']' :: rest = behind at line later
    have skipped {fuel : Nat} (room : 4 < fuel) :
        skipLines fuel ('\n' :: (List.replicate 4 ' ' ++ (text ++ ',' :: '\n' :: behind))) =
          text ++ ',' :: '\n' :: behind := by
      rw [parts]
      exact skipLines_indented visible _ room
    rw [line, items_item deep first (skipped (by simp)) (.comma _) (by omega),
      skipLines_of_visible comma]
    exact later.trans (by simp)

end Items

/-- What can be made of each item can be made of the list. -/
theorem exists_mapM {α β : Type} {f : α → Option β} {R : β → α → Prop} {as : List α}
    (each : ∀ a ∈ as, ∃ b, f a = some b ∧ R b a) :
    ∃ bs, as.mapM f = some bs ∧ List.Forall₂ R bs as := by
  induction as with
  | nil => exact ⟨[], rfl, .nil⟩
  | cons a as ih =>
    rw [List.forall_mem_cons] at each
    obtain ⟨b, made, related⟩ := each.1
    obtain ⟨bs, rest, others⟩ := ih each.2
    exact ⟨b :: bs, by simp [made, rest], .cons related others⟩

/-- The text of a list of these items: a line for each unless there is only one. -/
def listText : List String → String
  | [] => "[]"
  | [one] => "[" ++ one ++ "]"
  | texts => "[\n" ++ String.join (texts.map fun t => "    " ++ t ++ ",\n") ++ "]"

theorem valueText?_list (items : List Document) :
    valueText? (.list items) = (items.mapM valueText?).map listText := by
  have unbound : (items.attach.mapM fun d => valueText? d.1) = items.mapM valueText? := by
    rw [List.mapM_subtype (g := valueText?) (fun _ _ => rfl), List.unattach_attach]
  rw [valueText?]
  change (items.attach.mapM fun d => valueText? d.1).bind _ = _
  rw [unbound]
  cases items.mapM valueText? with
  | none => rfl
  | some texts => rcases texts with _ | ⟨first, _ | ⟨second, texts⟩⟩ <;> rfl

/-- The lines of a list of more than one item. -/
theorem toList_listText (first second : String) (texts : List String) :
    (listText (first :: second :: texts)).toList =
      '[' :: '\n' :: (((first :: second :: texts).map String.toList).flatMap itemLine ++
        [']']) := by
  have line (t : String) : ("    " ++ t ++ ",\n").toList = itemLine t.toList := by
    simp only [String.toList_append, List.append_assoc]
    rfl
  rw [listText]
  · simp only [String.toList_append, String.toList_join, List.flatMap_map, line]
    rfl
  · exact fun none => by cases none
  · exact fun one alone => by cases alone

/-- What stands between the brackets is read as the items. -/
theorem tells_of_items {depth : Nat} (body : List Char) {items : List Document}
    (read : ∀ fuel room rest, body.length + 1 < fuel → depth ≤ room → EndsValue rest →
      Toml.items fuel room [] (body ++ ']' :: rest) = .ok (.list items, rest)) :
    Tells (depth + 1) ('[' :: (body ++ [']'])) (.list items) := by
  refine ⟨⟨_, _, rfl, by decide⟩, ?_⟩
  intro fuel room rest enough deep ends
  obtain ⟨fuel, rfl⟩ := Nat.exists_eq_succ_of_ne_zero (Nat.ne_zero_of_lt enough)
  obtain ⟨room, rfl⟩ := Nat.exists_eq_succ_of_ne_zero (Nat.ne_zero_of_lt deep)
  simp only [List.length_cons, List.length_append] at enough
  rw [List.cons_append, List.append_assoc, value, if_neg (Nat.succ_ne_zero room)]
  exact read fuel room rest (by omega) (Nat.le_of_succ_le_succ deep) ends

/-- A list is read, on one line or on several. -/
theorem tells_list {depth : Nat} {texts : List String} {items : List Document}
    (told : List.Forall₂ (fun text d => Tells depth text.toList d) texts items) :
    Tells (depth + 1) (listText texts).toList (.list items) := by
  have closes : IsVisible ']' := by decide
  cases told with
  | nil =>
    refine tells_of_items [] fun fuel room rest enough _ _ => ?_
    obtain ⟨fuel, rfl⟩ := Nat.exists_eq_succ_of_ne_zero (Nat.ne_zero_of_lt enough)
    rw [List.nil_append, Toml.items, skipLines_of_visible closes]
    rfl
  | @cons one d texts items first others =>
    cases others with
    | nil =>
      have line : (listText [one]).toList = '[' :: (one.toList ++ [']']) := by
        rw [listText, String.toList_append, String.toList_append]
        rfl
      rw [line]
      refine tells_of_items one.toList fun fuel room rest enough deep _ => ?_
      obtain ⟨fuel, rfl⟩ := Nat.exists_eq_succ_of_ne_zero (Nat.ne_zero_of_lt enough)
      obtain ⟨c, more, parts, visible, -⟩ := first.begins
      have skipped : skipLines (one.toList ++ ']' :: rest).length (one.toList ++ ']' :: rest) =
          one.toList ++ ']' :: rest := by
        rw [parts]
        exact skipLines_of_visible visible _ _
      rw [items_item deep first skipped (.bracket rest) (by omega), skipLines_of_visible closes]
      rfl
    | @cons two d' texts items second others =>
      have told : List.Forall₂ (fun text d => Tells depth text.toList d) (one :: two :: texts)
          (d :: d' :: items) := .cons first (.cons second others)
      rw [toList_listText]
      refine tells_of_items ('\n' :: _) fun fuel room rest enough deep _ => ?_
      rw [List.cons_append, items_lines deep rest (List.forall₂_map_left_iff.2 told)
        (by rw [List.length_cons] at enough; omega)]
      rfl

/-- **Values read back.**  An exact value has a text, and this is read as the value. -/
theorem exists_valueText? {depth : Nat} {d : Document} (exact : IsValue depth d) :
    ∃ text, valueText? d = some text ∧ Tells depth text.toList d := by
  induction exact with
  | bool depth b => exact ⟨_, by rw [valueText?], tells_bool depth b⟩
  | integer depth fits => exact ⟨_, by rw [valueText?, if_pos fits], tells_ofInt depth fits⟩
  | text depth s => exact ⟨_, by rw [valueText?], tells_quoted depth s⟩
  | @list depth items inner ih =>
    obtain ⟨texts, printed, told⟩ := exists_mapM ih
    rw [valueText?_list, printed]
    exact ⟨_, rfl, tells_list told⟩

end Reachability.Toml

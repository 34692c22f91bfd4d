/-
# The grammar of JSON

The texts of RFC 8259, and the documents that they are: blanks may stand around every value, name
and colon, numbers and strings may be written in every way.  What has no value, a string with half
of a surrogate pair or a number beyond all doubles, is unreadable, and so is a table with such a
name.

Main definitions:

* `Json.Piece`, `Json.Member` : a value, and a named value, with the blanks around them;
* `Json.Spells` : a text is a value;
* `Json.IsText` : a text is a value with blanks around it.

Main results:

* `tells_of_spells` : **every value is read**, whatever stands behind it;
* `read?_of_isText` : every text is read as its document.
-/
import Reachability.Proofs.Document.Json.Numeral
import Reachability.Proofs.Document.Json.Quoted

namespace Reachability.Json

/-! ## Blanks -/

/-- Nothing but blanks. -/
def IsMargin (margin : List Char) : Prop := ∀ c ∈ margin, isBlank c = true

instance (margin : List Char) : Decidable (IsMargin margin) :=
  decidable_of_iff (margin.all isBlank = true) List.all_eq_true

theorem isMargin_nil : IsMargin [] := by decide

variable {margin rest : List Char}

theorem skipBlanks_append (blank : IsMargin margin) (cs : List Char) :
    skipBlanks (margin ++ cs) = skipBlanks cs :=
  List.dropWhile_append_of_pos blank

theorem skipBlanks_cons {c : Char} (visible : isBlank c = false) (cs : List Char) :
    skipBlanks (c :: cs) = c :: cs :=
  List.dropWhile_cons_of_neg (by simp [visible])

/-- Behind blanks the first other character is found. -/
theorem skipBlanks_margin (blank : IsMargin margin) {c : Char} (visible : isBlank c = false)
    (cs : List Char) : skipBlanks (margin ++ c :: cs) = c :: cs := by
  rw [skipBlanks_append blank, skipBlanks_cons visible]

/-- Blanks go on no number. -/
theorem endsNumber_append (blank : IsMargin margin) (ends : EndsNumber rest) :
    EndsNumber (margin ++ rest) := by
  cases margin with
  | nil => exact ends
  | cons c margin =>
    intro d first
    obtain rfl := Option.some.inj first
    have isBlank := blank c List.mem_cons_self
    simp only [Json.isBlank, Bool.or_eq_true, beq_iff_eq] at isBlank
    rcases isBlank with ((rfl | rfl) | rfl) | rfl <;> decide

theorem endsNumber_nil : EndsNumber [] := by
  intro c first
  cases first

theorem endsNumber_cons {c : Char} (token : c = ',' ∨ c = ']' ∨ c = '\x7d') (cs : List Char) :
    EndsNumber (c :: cs) := by
  intro d first
  obtain rfl := Option.some.inj first
  rcases token with rfl | rfl | rfl <;> decide

/-! ## Values -/

/-- A value of a list, with the blanks in front and behind. -/
structure Piece where
  front : List Char
  text : List Char
  back : List Char
  value : Document
  isFront : IsMargin front
  isBack : IsMargin back

def Piece.written (p : Piece) : List Char := p.front ++ (p.text ++ p.back)

/-- A named value of a table, with the blanks in front, before the colon and around the value. -/
structure Member where
  front : List Char
  body : List Char
  symbols : List Symbol
  gap : List Char
  item : Piece
  isFront : IsMargin front
  isGap : IsMargin gap
  quoted : Quotes body symbols

namespace Member

def written (m : Member) : List Char :=
  m.front ++ ('"' :: (m.body ++ ('"' :: (m.gap ++ (':' :: m.item.written)))))

/-- The name and the value, if the name is readable. -/
def named? (m : Member) : Option (String × Document) :=
  (characters? m.symbols).map fun cs => (String.ofList cs, m.item.value)

end Member

/-- The string of these symbols. -/
def stringOf (symbols : List Symbol) : Document :=
  ((characters? symbols).map fun cs => Document.text (String.ofList cs)).getD .unreadable

/-- The table of these members. -/
def tableOf (members : List Member) : Document :=
  ((members.mapM Member.named?).map Document.table).getD .unreadable

/-- A text is a value. -/
inductive Spells : List Char → Document → Prop
  | null : Spells "null".toList .null
  | bool (b : Bool) : Spells (if b then "true" else "false").toList (.bool b)
  | number (n : Numeral) : Spells n.text n.document
  | string {body : List Char} {symbols : List Symbol} (quoted : Quotes body symbols) :
      Spells ('"' :: (body ++ ['"'])) (stringOf symbols)
  | list {pieces : List Piece} {margin : List Char} (blank : IsMargin margin)
      (inner : ∀ p ∈ pieces, Spells p.text p.value) :
      Spells ('[' :: (separated [','] (pieces.map Piece.written) ++ (margin ++ [']'])))
        (.list (pieces.map Piece.value))
  | table {members : List Member} {margin : List Char} (blank : IsMargin margin)
      (inner : ∀ m ∈ members, Spells m.item.text m.item.value) :
      Spells ('\x7b' :: (separated [','] (members.map Member.written) ++ (margin ++ ['\x7d'])))
        (tableOf members)

/-- A text is a value with blanks around it. -/
def IsText (text : List Char) (d : Document) : Prop :=
  ∃ p : Piece, Spells p.text p.value ∧ p.written = text ∧ p.value = d

/-! ## Values that are read -/

/-- A text is read as a document, whatever stands behind it that goes on no number. -/
def Tells (text : List Char) (d : Document) : Prop :=
  ∀ fuel rest, text.length < fuel → EndsNumber rest →
    value? fuel (text ++ rest) = some (d, rest)

/-- Blanks in front of a value are read over. -/
theorem value?_append (blank : IsMargin margin) (fuel : Nat) (cs : List Char) :
    value? fuel (margin ++ cs) = value? fuel cs := by
  cases fuel with
  | zero => rfl
  | succ fuel => rw [value?, value?, skipBlanks_append blank]

/-- No value begins with a closing bracket or brace. -/
theorem value?_of_closing {cs rest : List Char} {c : Char} (closing : c = ']' ∨ c = '\x7d')
    (h : skipBlanks cs = c :: rest) (fuel : Nat) : value? fuel cs = none := by
  cases fuel with
  | zero => rfl
  | succ fuel => rcases closing with rfl | rfl <;> rw [value?, h] <;> rfl

/-- Behind a quote stands a string. -/
theorem value?_quote (fuel : Nat) (cs : List Char) : value? (fuel + 1) ('"' :: cs) =
    (string? cs).map fun (s, rest) => ((s.map Document.text).getD .unreadable, rest) := by
  rw [value?, skipBlanks_cons rfl]
  change (string? cs).bind _ = _
  cases string? cs <;> rfl

/-- Behind a bracket stand the items of a list, or the closing bracket. -/
theorem value?_bracket (fuel : Nat) (cs : List Char) : value? (fuel + 1) ('[' :: cs) =
    match skipBlanks cs with
    | ']' :: rest => some (.list [], rest)
    | _ => items? fuel [] cs := by
  rw [value?, skipBlanks_cons rfl]
  rfl

/-- Behind a brace stand the entries of a table, or the closing brace. -/
theorem value?_brace (fuel : Nat) (cs : List Char) : value? (fuel + 1) ('\x7b' :: cs) =
    match skipBlanks cs with
    | '\x7d' :: rest => some (.table [], rest)
    | _ => entries? fuel (some []) cs := by
  rw [value?, skipBlanks_cons rfl]
  rfl

/-- A sign or a digit begins a number. -/
theorem value?_of_number {c : Char} (begins : c = '-' ∨ Text.isDigit c = true) (fuel : Nat)
    (cs : List Char) : value? (fuel + 1) (c :: cs) = number? (c :: cs) := by
  have other {d : Char} := Decimal.ne_of_begins (d := d) begins
  have visible : isBlank c = false := by
    simp only [isBlank, Bool.or_eq_false_iff, beq_eq_false_iff_ne]
    exact ⟨⟨⟨other (by decide) rfl, other (by decide) rfl⟩, other (by decide) rfl⟩,
      other (by decide) rfl⟩
  have chosen : (decide (c = '-') || Text.isDigit c) = true := by simpa using begins
  rw [value?, skipBlanks_cons visible]
  split
  case h_1 same => exact absurd (List.cons.inj same).1 (other (by decide) rfl)
  case h_2 same => exact absurd (List.cons.inj same).1 (other (by decide) rfl)
  case h_3 same => exact absurd (List.cons.inj same).1 (other (by decide) rfl)
  case h_4 same =>
    obtain ⟨rfl, rfl⟩ := List.cons.inj same
    rw [if_pos chosen]
  case h_5 same => cases same

/-! ## Items of lists -/

theorem separated_cons {sep piece : List Char} {pieces : List (List Char)} (more : pieces ≠ []) :
    separated sep (piece :: pieces) = piece ++ (sep ++ separated sep pieces) := by
  rw [separated, List.append_assoc]
  exact more

/-- One item of a list, and what stands behind it. -/
theorem items?_piece {p : Piece} (told : Tells p.text p.value) (ends : EndsNumber rest)
    {fuel : Nat} (enough : p.written.length < fuel) (taken : List Document) :
    items? (fuel + 1) taken (p.written ++ rest) =
      match skipBlanks rest with
      | ',' :: rest => items? fuel (p.value :: taken) rest
      | ']' :: rest => some (.list (p.value :: taken).reverse, rest)
      | _ => none := by
  have room : p.text.length < fuel := by
    simp only [Piece.written, List.length_append] at enough
    omega
  rw [← skipBlanks_append p.isBack rest, items?, Piece.written, List.append_assoc,
    List.append_assoc, value?_append p.isFront,
    told fuel _ room (endsNumber_append p.isBack ends)]
  rfl

/-- The items of a list up to the closing bracket. -/
theorem items?_pieces (blank : IsMargin margin) {pieces : List Piece}
    (told : ∀ p ∈ pieces, Tells p.text p.value) (filled : pieces ≠ []) {fuel : Nat}
    (enough : (separated [','] (pieces.map Piece.written)).length + 1 < fuel)
    (taken : List Document) (rest : List Char) :
    items? fuel taken
        (separated [','] (pieces.map Piece.written) ++ (margin ++ ']' :: rest)) =
      some (.list (taken.reverse ++ pieces.map Piece.value), rest) := by
  -- a comma or the bracket takes part of the length, so the fuel lasts for the items behind it
  induction pieces generalizing fuel taken with
  | nil => exact absurd rfl filled
  | cons p pieces ih =>
    rw [List.forall_mem_cons] at told
    obtain ⟨fuel, rfl⟩ := Nat.exists_eq_succ_of_ne_zero (Nat.ne_zero_of_lt enough)
    by_cases last : pieces = []
    · subst last
      simp only [List.map_cons, List.map_nil, separated] at enough ⊢
      rw [items?_piece told.1 (endsNumber_append blank (endsNumber_cons (by simp) rest))
        (by omega), skipBlanks_margin blank rfl]
      simp
    · rw [List.map_cons, separated_cons (by simpa using last)] at enough ⊢
      simp only [List.length_append, List.length_singleton] at enough
      rw [List.append_assoc, List.append_assoc, List.singleton_append,
        items?_piece told.1 (endsNumber_cons (.inl rfl) _) (by omega), skipBlanks_cons rfl]
      exact (ih told.2 last (by omega) (p.value :: taken)).trans (by simp)

/-! ## Entries of tables -/

/-- The next entry in front of those that were read before. -/
def Member.pushOn (m : Member) (taken : Entries) : Entries :=
  m.named?.bind fun e => taken.map (e :: ·)

/-- The table of what was read before, latest first, and of the members behind it. -/
def tableAfter (taken : Entries) (members : List Member) : Document :=
  ((taken.bind fun before => (members.mapM Member.named?).map fun entries =>
    Document.table (before.reverse ++ entries))).getD .unreadable

theorem tableAfter_cons (taken : Entries) (m : Member) (members : List Member) :
    tableAfter taken (m :: members) = tableAfter (m.pushOn taken) members := by
  rw [tableAfter, tableAfter, Member.pushOn, List.mapM_cons]
  cases taken <;> cases m.named? <;> cases members.mapM Member.named? <;> simp

/-- One entry of a table, and what stands behind it. -/
theorem entries?_member {m : Member} (told : Tells m.item.text m.item.value)
    (ends : EndsNumber rest) {fuel : Nat} (enough : m.written.length < fuel) (taken : Entries) :
    entries? (fuel + 1) taken (m.written ++ rest) =
      match skipBlanks rest with
      | ',' :: rest => entries? fuel (m.pushOn taken) rest
      | '\x7d' :: rest =>
          some (((m.pushOn taken).map fun es => Document.table es.reverse).getD .unreadable, rest)
      | _ => none := by
  have room : m.item.text.length < fuel := by
    simp only [Member.written, Piece.written, List.length_append, List.length_cons] at enough
    omega
  have named := string?_of_quotes m.quoted (m.gap ++ (':' :: (m.item.written ++ rest)))
  have valued :
      value? fuel (m.item.written ++ rest) = some (m.item.value, m.item.back ++ rest) := by
    rw [Piece.written, List.append_assoc, List.append_assoc, value?_append m.item.isFront,
      told fuel _ room (endsNumber_append m.item.isBack ends)]
  have parts : m.written ++ rest =
      m.front ++ '"' :: (m.body ++ '"' :: (m.gap ++ ':' :: (m.item.written ++ rest))) := by
    simp [Member.written]
  have colon := skipBlanks_margin m.isGap (c := ':') rfl (m.item.written ++ rest)
  rw [parts, entries?, skipBlanks_margin m.isFront rfl]
  simp only [named, Option.bind_eq_bind, Option.bind_some, colon, valued,
    skipBlanks_append m.item.isBack]
  rw [Member.pushOn, Member.named?]
  cases characters? m.symbols <;> cases taken <;> rfl

/-- The entries of a table up to the closing brace. -/
theorem entries?_members (blank : IsMargin margin) {members : List Member}
    (told : ∀ m ∈ members, Tells m.item.text m.item.value) (filled : members ≠ []) {fuel : Nat}
    (enough : (separated [','] (members.map Member.written)).length + 1 < fuel)
    (taken : Entries) (rest : List Char) :
    entries? fuel taken
        (separated [','] (members.map Member.written) ++ (margin ++ '\x7d' :: rest)) =
      some (tableAfter taken members, rest) := by
  induction members generalizing fuel taken with
  | nil => exact absurd rfl filled
  | cons m members ih =>
    rw [List.forall_mem_cons] at told
    obtain ⟨fuel, rfl⟩ := Nat.exists_eq_succ_of_ne_zero (Nat.ne_zero_of_lt enough)
    rw [tableAfter_cons]
    by_cases last : members = []
    · subst last
      simp only [List.map_cons, List.map_nil, separated] at enough ⊢
      rw [entries?_member told.1 (endsNumber_append blank (endsNumber_cons (by simp) rest))
        (by omega), skipBlanks_margin blank rfl]
      cases m.pushOn taken <;> simp [tableAfter]
    · rw [List.map_cons, separated_cons (by simpa using last)] at enough ⊢
      simp only [List.length_append, List.length_singleton] at enough
      rw [List.append_assoc, List.append_assoc, List.singleton_append,
        entries?_member told.1 (endsNumber_cons (.inl rfl) _) (by omega), skipBlanks_cons rfl]
      exact ih told.2 last (by omega) (m.pushOn taken)

/-! ## Texts that are read -/

theorem tells_null : Tells "null".toList .null := by
  intro fuel rest enough _
  obtain ⟨fuel, rfl⟩ := Nat.exists_eq_succ_of_ne_zero (Nat.ne_zero_of_lt enough)
  rfl

theorem tells_bool (b : Bool) : Tells (if b then "true" else "false").toList (.bool b) := by
  intro fuel rest enough _
  obtain ⟨fuel, rfl⟩ := Nat.exists_eq_succ_of_ne_zero (Nat.ne_zero_of_lt enough)
  cases b <;> rfl

theorem tells_number (n : Numeral) : Tells n.text n.document := by
  intro fuel rest enough ends
  obtain ⟨fuel, rfl⟩ := Nat.exists_eq_succ_of_ne_zero (Nat.ne_zero_of_lt enough)
  have read := number?_append n ends
  obtain ⟨c, cs, parts, begins⟩ := n.exists_text_eq_cons
  rw [parts, List.cons_append] at read ⊢
  rw [value?_of_number begins, read]

theorem tells_string {body : List Char} {symbols : List Symbol} (quoted : Quotes body symbols) :
    Tells ('"' :: (body ++ ['"'])) (stringOf symbols) := by
  intro fuel rest enough _
  obtain ⟨fuel, rfl⟩ := Nat.exists_eq_succ_of_ne_zero (Nat.ne_zero_of_lt enough)
  rw [List.cons_append, List.append_assoc, value?_quote, List.singleton_append,
    string?_of_quotes quoted, stringOf]
  cases characters? symbols <;> rfl

theorem tells_list (blank : IsMargin margin) {pieces : List Piece}
    (told : ∀ p ∈ pieces, Tells p.text p.value) :
    Tells ('[' :: (separated [','] (pieces.map Piece.written) ++ (margin ++ [']'])))
      (.list (pieces.map Piece.value)) := by
  intro fuel rest enough _
  obtain ⟨fuel, rfl⟩ := Nat.exists_eq_succ_of_ne_zero (Nat.ne_zero_of_lt enough)
  simp only [List.length_cons, List.length_append, List.length_nil] at enough
  rw [List.cons_append, List.append_assoc, List.append_assoc, List.singleton_append,
    value?_bracket]
  by_cases empty : pieces = []
  · subst empty
    rw [List.map_nil, separated, List.nil_append, skipBlanks_margin blank rfl]
    rfl
  · have room : (separated [','] (pieces.map Piece.written)).length + 1 < fuel := by omega
    have read := items?_pieces blank told empty room [] rest
    split
    case h_1 more closed =>
      -- the first item would have to begin with the closing bracket
      obtain ⟨fuel, rfl⟩ := Nat.exists_eq_succ_of_ne_zero (n := fuel) (by omega)
      rw [items?, value?_of_closing (.inl rfl) closed] at read
      cases read
    case h_2 => exact read

theorem tells_table (blank : IsMargin margin) {members : List Member}
    (told : ∀ m ∈ members, Tells m.item.text m.item.value) :
    Tells ('\x7b' :: (separated [','] (members.map Member.written) ++ (margin ++ ['\x7d'])))
      (tableOf members) := by
  intro fuel rest enough _
  obtain ⟨fuel, rfl⟩ := Nat.exists_eq_succ_of_ne_zero (Nat.ne_zero_of_lt enough)
  simp only [List.length_cons, List.length_append, List.length_nil] at enough
  rw [List.cons_append, List.append_assoc, List.append_assoc, List.singleton_append,
    value?_brace]
  by_cases empty : members = []
  · subst empty
    rw [List.map_nil, separated, List.nil_append, skipBlanks_margin blank rfl]
    rfl
  · have room : (separated [','] (members.map Member.written)).length + 1 < fuel := by omega
    have read := entries?_members blank told empty room (some []) rest
    split
    case h_1 more closed =>
      -- the first name would have to begin with the closing brace
      obtain ⟨fuel, rfl⟩ := Nat.exists_eq_succ_of_ne_zero (n := fuel) (by omega)
      rw [entries?, closed] at read
      cases read
    case h_2 => exact read

/-- **Values are read.**  Every value of the grammar is read as its document, whatever stands
behind it that goes on no number. -/
theorem tells_of_spells {text : List Char} {d : Document} (spelled : Spells text d) :
    Tells text d := by
  induction spelled with
  | null => exact tells_null
  | bool b => exact tells_bool b
  | number n => exact tells_number n
  | string quoted => exact tells_string quoted
  | list blank inner ih => exact tells_list blank ih
  | table blank inner ih => exact tells_table blank ih

/-- A text of the grammar is read as its document. -/
theorem read?_of_isText {text : List Char} {d : Document} (written : IsText text d) :
    read? (String.ofList text) = some d := by
  obtain ⟨p, spelled, rfl, rfl⟩ := written
  have room : p.text.length < 2 * p.written.length + 2 := by
    simp only [Piece.written, List.length_append]
    omega
  have ends : EndsNumber p.back := by
    simpa using endsNumber_append p.isBack endsNumber_nil
  have blank : skipBlanks p.back = [] := List.dropWhile_eq_nil_iff.2 p.isBack
  have read : value? (2 * p.written.length + 2) p.written = some (p.value, p.back) := by
    rw [Piece.written, value?_append p.isFront]
    exact tells_of_spells spelled _ _ room ends
  rw [read?, String.toList_ofList, read]
  simp only [blank]
  rfl

end Reachability.Json

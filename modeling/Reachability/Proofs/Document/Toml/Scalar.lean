/-
# Integers of TOML

What is written as an integer reads back; digits are no date, no time and no number with a
fraction.

Main definitions:

* `Toml.EndsValue` : a text that begins with what may stand behind a value.

Main results:

* `date?_digits`, `real?_of_sign`, `integer?_of_sign` : digits are nothing but an integer;
* `scalar_ofInt` : an integer is read as it was written.
-/
import Reachability.Document.Toml.Printer
import Reachability.Proofs.Number.Digits
import Reachability.Proofs.Text.Cutting

namespace Reachability.Toml

open Decimal

/-! ## What stands behind a value -/

/-- A text begins with what may stand behind a value. -/
inductive EndsValue : List Char → Prop
  | line (rest : List Char) : EndsValue ('\n' :: rest)
  | comma (rest : List Char) : EndsValue (',' :: rest)
  | bracket (rest : List Char) : EndsValue (']' :: rest)

/-! ## Digits -/

section Digits

variable {n : Nat} {rest : List Char} (ends : EndsValue rest)
include ends

/-- Digits that are not grouped are one group. -/
theorem grouped?_digits : grouped? Text.isDigit (digits n ++ rest) = some (digits n, rest) := by
  have own : ∀ c ∈ digits n, (Text.isDigit c || c == '_') = true := fun c there => by
    rw [isDigit_of_mem_digits there, Bool.true_or]
  have none : rest.takeWhile (fun c => Text.isDigit c || c == '_') = [] := by
    cases ends <;> rfl
  have run : (digits n ++ rest).takeWhile (fun c => Text.isDigit c || c == '_') = digits n := by
    rw [List.takeWhile_append_of_pos own, none, List.append_nil]
  have noLine : '_' ∉ digits n := fun there => absurd (isDigit_of_mem_digits there) (by decide)
  rw [grouped?, run, Text.fields_eq_singleton noLine]
  simp [digits_ne_nil]

/-- The digits of a number are a whole part. -/
theorem wholeDigits?_digits : wholeDigits? (digits n ++ rest) = some (digits n, rest) := by
  rw [wholeDigits?, grouped?_digits ends, Option.bind_eq_bind, Option.bind_some]
  dsimp only
  split
  case h_1 d ds superfluous => cases eq_nil_of_zero_cons superfluous
  case h_2 => rfl

/-- What stands some digits further is no sign of a date or a time. -/
theorem after?_of_field? {count low high v : Nat} {cs : List Char}
    (found : field? count low high (digits n ++ rest) = some (v, cs)) {c : Char}
    (sign : c = '-' ∨ c = ':') : after? c cs = none := by
  obtain ⟨e, more, rfl, noDigit, other⟩ :
      ∃ e more, rest = e :: more ∧ Text.isDigit e = false ∧ e ≠ c := by
    cases ends <;> rcases sign with rfl | rfl <;> exact ⟨_, _, rfl, by decide, by decide⟩
  rw [field?] at found
  split at found
  case isTrue => cases found
  case isFalse few =>
    simp only [Bool.or_eq_true, decide_eq_true_eq, Bool.not_eq_true', not_or, Nat.not_lt,
      Bool.not_eq_false, List.all_eq_true] at few
    have inside : count ≤ (digits n).length := by
      by_contra beyond
      obtain ⟨k, rfl⟩ : ∃ k, count = (digits n).length + (k + 1) :=
        ⟨count - (digits n).length - 1, by omega⟩
      rw [List.take_length_add_append, List.take_succ_cons] at few
      have digit := few.2 e (List.mem_append_right _ List.mem_cons_self)
      rw [noDigit] at digit
      cases digit
    dsimp only at found
    split at found
    case isFalse => cases found
    case isTrue =>
      obtain ⟨-, rfl⟩ := Prod.mk.inj (Option.some.inj found)
      rw [List.drop_append_of_le_length inside]
      cases left : (digits n).drop count with
      | nil => exact if_neg other
      | cons d ds =>
        have digit : Text.isDigit d = true :=
          isDigit_of_mem_digits (List.mem_of_mem_drop (left ▸ List.mem_cons_self))
        refine if_neg ?_
        rintro rfl
        rcases sign with rfl | rfl <;> exact absurd digit (by decide)

/-- Digits are no date and no time. -/
theorem date?_digits : date? (digits n ++ rest) = none := by
  have noDate : afterDate? (digits n ++ rest) = none := by
    rw [afterDate?]
    cases found : field? 4 0 9999 (digits n ++ rest) with
    | none => rfl
    | some year => simp [after?_of_field? ends found (.inl rfl)]
  have noTime : afterTime? (digits n ++ rest) = none := by
    rw [afterTime?]
    cases found : field? 2 0 23 (digits n ++ rest) with
    | none => rfl
    | some hour => simp [after?_of_field? ends found (.inr rfl)]
  rw [date?, noDate, noTime]
  rfl

/-- Digits are no number with a fraction or an exponent. -/
theorem real?_of_sign {cs : List Char} {negative signed : Bool}
    (unsigned : sign cs = (negative, signed, digits n ++ rest)) : real? cs = none := by
  obtain ⟨d, ds, parts, digit⟩ := exists_digits_eq_cons n
  have whole := wholeDigits?_digits (n := n) ends
  have begins {c : Char} (other : Text.isDigit c = false) (more : List Char) :
      digits n ++ rest ≠ c :: more := by
    rw [parts]
    rintro ⟨⟩
    rw [other] at digit
    cases digit
  rw [real?, unsigned]
  generalize digits n ++ rest = cs at whole begins
  dsimp only
  split
  case h_1 => exact absurd rfl (begins rfl _)
  case h_2 => exact absurd rfl (begins rfl _)
  case h_3 =>
    rw [whole]
    cases ends <;> rfl

/-- A zero at the start of digits is the only one, so no mark of a base follows. -/
theorem digits_append_ne_mark {mark : Char} (letter : mark ∈ ['x', 'o', 'b']) (more : List Char) :
    digits n ++ rest ≠ '0' :: mark :: more := by
  intro same
  obtain ⟨d, ds, parts, -⟩ := exists_digits_eq_cons n
  rw [parts, List.cons_append, List.cons.injEq] at same
  obtain ⟨rfl, same⟩ := same
  obtain rfl := eq_nil_of_zero_cons parts
  rw [List.nil_append] at same
  cases ends <;> cases same <;> exact absurd letter (by decide)

/-- Digits are an integer, if it fits. -/
theorem integer?_of_sign {cs : List Char} {negative signed : Bool}
    (unsigned : sign cs = (negative, signed, digits n ++ rest)) {i : Int}
    (value : (if negative then -(n : Int) else n) = i)
    (fits : Int64.minValue.toInt ≤ i ∧ i ≤ Int64.maxValue.toInt) :
    integer? cs = some (.integer i, rest) := by
  have noMark {mark : Char} (letter : mark ∈ ['x', 'o', 'b']) (more : List Char) :
      cs ≠ '0' :: mark :: more := by
    rintro rfl
    exact digits_append_ne_mark ends letter more (congrArg (·.2.2) unsigned).symm
  rw [integer?]
  · rw [unsigned]
    dsimp only
    rw [wholeDigits?_digits ends]
    simp only [Option.bind_eq_bind, Option.bind_some, value_digits, value, if_pos fits]
  · exact noMark (by decide)
  · exact noMark (by decide)
  · exact noMark (by decide)

end Digits

/-- Digits have no sign. -/
theorem sign_digits (n : Nat) (rest : List Char) :
    sign (digits n ++ rest) = (false, false, digits n ++ rest) := by
  obtain ⟨d, ds, parts, digit⟩ := exists_digits_eq_cons n
  rw [parts, List.cons_append, sign]
  · rintro more ⟨⟩
    cases digit
  · rintro more ⟨⟩
    cases digit

/-- A date and a time begin with a digit. -/
theorem date?_minus (cs : List Char) : date? ('-' :: cs) = none := by
  have none (count low high : Nat) : field? (count + 1) low high ('-' :: cs) = none := by
    rw [field?, List.take_succ_cons]
    exact if_pos (by simp [Text.isDigit])
  rw [date?, afterDate?, afterTime?, none, none]
  rfl

/-- An integer of 64 bits with a sign is read as it was written. -/
theorem scalar_ofInt {i : Int} (fits : Int64.minValue.toInt ≤ i ∧ i ≤ Int64.maxValue.toInt)
    {rest : List Char} (ends : EndsValue rest) :
    scalar ((ofInt i).toList ++ rest) = .ok (.integer i, rest) := by
  obtain ⟨c, cs, parts, begins⟩ := exists_toList_ofInt_eq_cons i
  have found : ((date? (c :: cs ++ rest)).or (real? (c :: cs ++ rest))).or
      (integer? (c :: cs ++ rest)) = some (.integer i, rest) := by
    rw [← parts, toList_ofInt]
    split
    case isTrue below =>
      have negative : sign ('-' :: digits i.natAbs ++ rest) =
          (true, true, digits i.natAbs ++ rest) := rfl
      have whole : -(i.natAbs : Int) = i := by omega
      rw [List.cons_append, date?_minus, ← List.cons_append, real?_of_sign ends negative,
        integer?_of_sign ends negative whole fits]
      rfl
    case isFalse above =>
      have positive := sign_digits i.natAbs rest
      have whole : (i.natAbs : Int) = i := by omega
      rw [date?_digits ends, real?_of_sign ends positive,
        integer?_of_sign ends positive whole fits]
      rfl
  rw [List.cons_append] at found
  rw [parts, List.cons_append, scalar]
  · rw [if_pos (.inr begins), found]
  all_goals exact fun _ same => absurd same (ne_of_begins begins (by decide) rfl)

end Reachability.Toml

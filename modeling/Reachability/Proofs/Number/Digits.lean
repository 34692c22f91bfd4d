/-
# Decimal digits

The digits of a number read back as the number, and begin with a zero only if the number is zero.

Main results:

* `isDigit_of_mem_digits`, `digits_ne_nil` : what digits are;
* `value_digits` : the value of the digits of a number;
* `toList_ofInt` : the text of an integer;
* `eq_nil_of_zero_cons` : there is no superfluous zero;
* `IsDigits.takeWhile_append`, `IsDigits.dropWhile_append` : digits at the start of a text.
-/
import Mathlib.Data.List.TakeWhile
import Reachability.Number.Decimal

namespace Reachability.Decimal

/-! ## Single digits -/

theorem digitValue_digitChar {d : Nat} (h : d < 10) : digitValue (digitChar d) = d := by
  have all : ∀ d < 10, digitValue (digitChar d) = d := by decide
  exact all d h

theorem isDigit_digitChar {d : Nat} (h : d < 10) : Text.isDigit (digitChar d) = true := by
  have all : ∀ d < 10, Text.isDigit (digitChar d) = true := by decide
  exact all d h

/-! ## Digits of numbers -/

theorem digits_of_lt {n : Nat} (h : n < 10) : digits n = [digitChar n] := by
  rw [digits, if_pos h]

theorem digits_of_le {n : Nat} (h : 10 ≤ n) :
    digits n = digits (n / 10) ++ [digitChar (n % 10)] := by
  rw [digits, if_neg (Nat.not_lt.2 h)]

theorem isDigit_of_mem_digits {n : Nat} {c : Char} (h : c ∈ digits n) :
    Text.isDigit c = true := by
  induction n using digits.induct with
  | case1 n small =>
    rw [digits_of_lt small, List.mem_singleton] at h
    rw [h]
    exact isDigit_digitChar small
  | case2 n large ih =>
    rw [digits_of_le (Nat.not_lt.1 large), List.mem_append, List.mem_singleton] at h
    rcases h with h | rfl
    · exact ih h
    · exact isDigit_digitChar (Nat.mod_lt n (by decide))

theorem digits_ne_nil (n : Nat) : digits n ≠ [] := by
  rw [digits]
  split
  · exact List.cons_ne_nil _ _
  · exact List.append_ne_nil_of_right_ne_nil _ (List.cons_ne_nil _ _)

theorem exists_digits_eq_cons (n : Nat) : ∃ d ds, digits n = d :: ds ∧ Text.isDigit d = true := by
  obtain ⟨d, ds, parts⟩ := List.exists_cons_of_ne_nil (digits_ne_nil n)
  exact ⟨d, ds, parts, isDigit_of_mem_digits (parts ▸ List.mem_cons_self)⟩

/-- The digits of a number have its value. -/
theorem value_digits (n : Nat) : value (digits n) = n := by
  induction n using digits.induct with
  | case1 n small =>
    rw [digits_of_lt small, value, List.foldl_cons, List.foldl_nil, digitValue_digitChar small]
    omega
  | case2 n large ih =>
    rw [value] at ih
    rw [digits_of_le (Nat.not_lt.1 large), value, List.foldl_append, ih, List.foldl_cons,
      List.foldl_nil, digitValue_digitChar (Nat.mod_lt n (by decide))]
    omega

/-- There is no superfluous zero. -/
theorem eq_nil_of_zero_cons {n : Nat} {ds : List Char} (h : digits n = '0' :: ds) : ds = [] := by
  induction n using digits.induct generalizing ds with
  | case1 n small =>
    rw [digits_of_lt small, List.cons.injEq] at h
    exact h.2.symm
  | case2 n large ih =>
    obtain ⟨d, rest, parts, -⟩ := exists_digits_eq_cons (n / 10)
    rw [digits_of_le (Nat.not_lt.1 large), parts, List.cons_append, List.cons.injEq] at h
    -- the digits in front would be those of zero, but the number is at least ten
    rw [h.1] at parts
    have front := value_digits (n / 10)
    rw [parts, ih parts] at front
    have zero : value ['0'] = 0 := by decide
    omega

/-! ## Integers -/

/-- An integer is written as the digits of its magnitude, behind its sign. -/
theorem toList_ofInt (i : Int) : (ofInt i).toList =
    if i < 0 then '-' :: digits i.natAbs else digits i.natAbs := by
  rw [ofInt, ofNat]
  split
  · simp
  · rw [String.toList_ofList]

theorem exists_toList_ofInt_eq_cons (i : Int) :
    ∃ c cs, (ofInt i).toList = c :: cs ∧ (c = '-' ∨ Text.isDigit c = true) := by
  obtain ⟨d, ds, parts, digit⟩ := exists_digits_eq_cons i.natAbs
  rw [toList_ofInt]
  split
  · exact ⟨'-', _, rfl, .inl rfl⟩
  · exact ⟨d, ds, parts, .inr digit⟩

/-- Other characters begin no integer. -/
theorem ne_of_begins {c d : Char} (begins : c = '-' ∨ Text.isDigit c = true) (sign : d ≠ '-')
    (digit : Text.isDigit d = false) : c ≠ d := by
  rintro rfl
  rcases begins with h | h
  · exact sign h
  · rw [digit] at h
    cases h

/-! ## Digits at the start of a text -/

/-- At least one digit, and nothing else. -/
structure IsDigits (ds : List Char) : Prop where
  ne_nil : ds ≠ []
  digit : ∀ c ∈ ds, Text.isDigit c = true

theorem isDigits_digits (n : Nat) : IsDigits (digits n) :=
  ⟨digits_ne_nil n, fun _ => isDigit_of_mem_digits⟩

/-- A text that does not go on with a digit. -/
def EndsDigits (rest : List Char) : Prop := ∀ c ∈ rest.head?, Text.isDigit c = false

section Run

variable {ds rest : List Char}

theorem IsDigits.exists_eq_cons (h : IsDigits ds) :
    ∃ d more, ds = d :: more ∧ Text.isDigit d = true := by
  obtain ⟨d, more, rfl⟩ := List.exists_cons_of_ne_nil h.ne_nil
  exact ⟨d, more, rfl, h.digit d List.mem_cons_self⟩

theorem IsDigits.takeWhile_append (h : IsDigits ds) (ends : EndsDigits rest) :
    (ds ++ rest).takeWhile Text.isDigit = ds := by
  rw [List.takeWhile_append_of_pos h.digit]
  cases rest with
  | nil => exact List.append_nil _
  | cons c rest => rw [List.takeWhile_cons_of_neg (by simp [ends c rfl]), List.append_nil]

theorem IsDigits.dropWhile_append (h : IsDigits ds) (ends : EndsDigits rest) :
    (ds ++ rest).dropWhile Text.isDigit = rest := by
  rw [List.dropWhile_append_of_pos h.digit]
  cases rest with
  | nil => rfl
  | cons c rest => rw [List.dropWhile_cons_of_neg (by simp [ends c rfl])]

end Run

end Reachability.Decimal

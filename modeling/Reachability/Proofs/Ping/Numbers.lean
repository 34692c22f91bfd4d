/-
# Which numbers are read

Counts are the numerals of a value that fits into an integer of 32 bits.  Decimals are numerals,
perhaps with a period and a further numeral behind them, of a value within the range of doubles.
Nothing else is read: no sign, no exponent, no blank, no digits of other scripts.

Main definitions:

* `numeralValue` : the number a numeral stands for;
* `Spells` : the whole part and the fraction a token is made of.

Main results:

* `map_toInt_count?_eq_some_iff` : the counts and what they are read as;
* `isSome_decimal?_iff_lt` : the decimals;
* `numbers_read_iff` : both, and the characters that are in neither.
-/
import Mathlib.Data.Nat.Digits.Defs
import Reachability.Proofs.Number.Range
import Reachability.Proofs.Ping.Strictness

namespace Reachability.Ping

/-! ## Values -/

/-- The number a numeral stands for: its digits, weighted by powers of ten from the last one on. -/
def numeralValue (digits : List Char) : Nat :=
  Nat.ofDigits 10 (digits.reverse.map fun c => c.toNat - '0'.toNat)

theorem numeralValue_concat (digits : List Char) (c : Char) :
    numeralValue (digits ++ [c]) = (c.toNat - '0'.toNat) + 10 * numeralValue digits := by
  rw [numeralValue, numeralValue, List.reverse_concat, List.map_cons, Nat.ofDigits_cons]

/-- Reading digit after digit, each time ten times what is read so far, gives the value. -/
theorem value_eq_numeralValue (digits : List Char) :
    Decimal.value digits = numeralValue digits := by
  induction digits using List.reverseRecOn with
  | nil => rfl
  | append_singleton digits c ih =>
    have step : Decimal.value (digits ++ [c]) =
        Decimal.value digits * 10 + Decimal.digitValue c := by
      rw [Decimal.value, List.foldl_concat, Decimal.value]
    rw [step, ih, numeralValue_concat, Nat.add_comm, Nat.mul_comm]
    rfl

/-! ## Counts -/

/-- Exactly the numerals of a value within 32 bits are read as counts, and as their values. -/
theorem map_toInt_count?_eq_some_iff {token : List Char} {i : Int} :
    (count? token).map Int32.toInt = some i ↔
      IsNumeral token ∧ i = numeralValue token ∧ i ≤ Int32.maxValue.toInt := by
  have largest : Int32.maxValue.toInt = maxCount := by decide
  rw [Option.map_eq_some_iff, largest]
  constructor
  · rintro ⟨n, read, rfl⟩
    obtain ⟨⟨numeral, small⟩, -⟩ := count?_eq_some_iff.1 read
    rw [toInt_of_count? read, value_eq_numeralValue] at *
    exact ⟨numeral, rfl, Int.ofNat_le.2 small⟩
  · rintro ⟨numeral, rfl, small⟩
    rw [← value_eq_numeralValue] at *
    have isCount : IsCount token := ⟨numeral, Int.ofNat_le.1 small⟩
    exact ⟨_, count?_eq_some_iff.2 ⟨isCount, rfl⟩, toInt_ofNat_of_le_maxCount isCount.2⟩

example : (count? "2147483647".toList).isSome = true ∧ count? "2147483648".toList = none := by
  decide

/-! ## Decimals -/

/-- A token spells its whole part and its fraction: it is a numeral, or it has a period between
two of them. -/
inductive Spells : (token whole fraction : List Char) → Prop
  | whole {token : List Char} : IsNumeral token → Spells token token []
  | period {whole fraction : List Char} : IsNumeral whole → IsNumeral fraction →
      Spells (whole ++ '.' :: fraction) whole fraction

section Spelling

variable {token whole fraction : List Char}

theorem spells_iff : Spells token whole fraction ↔ IsNumeral whole ∧
    (token = whole ∧ fraction = [] ∨ token = whole ++ '.' :: fraction ∧ IsNumeral fraction) := by
  constructor
  · rintro (numeral | ⟨numeral, numeral'⟩)
    · exact ⟨numeral, .inl ⟨rfl, rfl⟩⟩
    · exact ⟨numeral, .inr ⟨rfl, numeral'⟩⟩
  · rintro ⟨numeral, ⟨rfl, rfl⟩ | ⟨rfl, numeral'⟩⟩
    · exact .whole numeral
    · exact .period numeral numeral'

/-- No other characters than digits and the period are spelled. -/
theorem Spells.mem (spells : Spells token whole fraction) {c : Char} (hc : c ∈ token) :
    '0' ≤ c ∧ c ≤ '9' ∨ c = '.' := by
  cases spells with
  | whole numeral => exact .inl (numeral.2 c hc)
  | period numeral numeral' =>
    rw [List.mem_append, List.mem_cons] at hc
    rcases hc with hc | rfl | hc
    · exact .inl (numeral.2 c hc)
    · exact .inr rfl
    · exact .inl (numeral'.2 c hc)

/-- Exactly the spelled numbers below the bound are read as decimals. -/
theorem isSome_decimal?_iff_lt : (decimal? token).isSome = true ↔
    ∃ whole fraction, Spells token whole fraction ∧
      numeralValue (whole ++ fraction) < Binary64.overflowBound * 10 ^ fraction.length := by
  rw [isSome_decimal?_iff, IsDecimal]
  simp only [spells_iff, ← value_eq_numeralValue, Decimal.isFinite_toBinary64_iff, and_assoc]

end Spelling

/-- Numbers of 308 digits are within the range of doubles. -/
theorem ten_pow_le_overflowBound : 10 ^ 308 ≤ Binary64.overflowBound := by decide +kernel

/-- **Which numbers are read.**  A count is read exactly from a numeral up to the largest integer
of 32 bits, as its value.  A decimal is read exactly from a numeral, or two with a period in
between, of a value below `2 ^ 1024 - 2 ^ 970`, and so from all of them below `10 ^ 308`.  One other
character, and nothing is read. -/
theorem numbers_read_iff (token : List Char) :
    (∀ i : Int, (count? token).map Int32.toInt = some i ↔
      IsNumeral token ∧ i = numeralValue token ∧ i ≤ Int32.maxValue.toInt) ∧
    ((decimal? token).isSome = true ↔ ∃ whole fraction, Spells token whole fraction ∧
      numeralValue (whole ++ fraction) < Binary64.overflowBound * 10 ^ fraction.length) ∧
    (∀ whole fraction, Spells token whole fraction →
      numeralValue (whole ++ fraction) < 10 ^ 308 * 10 ^ fraction.length →
      (decimal? token).isSome = true) ∧
    ∀ c ∈ token, ¬('0' ≤ c ∧ c ≤ '9') →
      count? token = none ∧ (c ≠ '.' → decimal? token = none) := by
  refine ⟨fun i => map_toInt_count?_eq_some_iff, isSome_decimal?_iff_lt,
    fun whole fraction spells small => ?_, fun c hc other => ⟨?_, fun noPeriod => ?_⟩⟩
  · refine isSome_decimal?_iff_lt.2 ⟨whole, fraction, spells, small.trans_le ?_⟩
    exact Nat.mul_le_mul_right _ ten_pow_le_overflowBound
  · refine Option.eq_none_iff_forall_ne_some.2 fun n read => other ?_
    exact (count?_eq_some_iff.1 read).1.1.2 c hc
  · refine Option.not_isSome_iff_eq_none.1 fun read => ?_
    obtain ⟨whole, fraction, spells, -⟩ := isSome_decimal?_iff_lt.1 read
    exact (spells.mem hc).elim other noPeriod

/-- The largest count behind zeros, and a decimal that is no count. -/
theorem padded_numbers_read :
    let count := "0002147483647".toList
    let decimal := "007.50".toList
    IsNumeral count ∧ (2147483647 : Int) = numeralValue count ∧
      (count? count).map Int32.toInt = some 2147483647 ∧
      Spells decimal "007".toList "50".toList ∧ (decimal? decimal).isSome = true ∧
      '.' ∈ decimal ∧ count? decimal = none := by
  intro count decimal
  obtain ⟨counts, -⟩ := numbers_read_iff count
  obtain ⟨-, -, below, others⟩ := numbers_read_iff decimal
  have numeral : IsNumeral count := by decide
  have value : (2147483647 : Int) = numeralValue count := by decide
  have spells : Spells decimal "007".toList "50".toList :=
    @Spells.period "007".toList "50".toList (by decide) (by decide)
  have small : numeralValue ("007".toList ++ "50".toList) <
      10 ^ 308 * 10 ^ "50".toList.length := by
    decide +kernel
  exact ⟨numeral, value, (counts _).2 ⟨numeral, value, by decide⟩, spells,
    below _ _ spells small, by decide, (others '.' (by decide) (by decide)).1⟩

end Reachability.Ping

/-
# The range of doubles

Rounding leads to an infinity exactly from the number half a unit above the largest finite
double on: in that tie the larger number is the even one.

Main definitions:

* `Binary64.magnitude` : the bits that rounding leads to, were there no largest exponent;
* `Binary64.overflowBound` : the least natural number that is rounded to an infinity.

Main results:

* `Binary64.roundHalfEven_le_iff` : what is rounded to the nearest natural number;
* `Binary64.roundingExponent_spec` : the significand has fifty-three bits, unless the exponent is
  the least one;
* `Binary64.isFinite_ofRatio_iff`, `Decimal.isFinite_toBinary64_iff` : which numbers are finite.
-/
import Mathlib.Algebra.Order.Field.Power
import Mathlib.Data.Rat.Cast.Order
import Mathlib.Tactic.Positivity
import Mathlib.Tactic.Ring
import Reachability.Number.Decimal

namespace Reachability

namespace Binary64

/-! ## The nearest natural number -/

/-- Twice the middle between `m` and `m + 1`, in units of `d`. -/
theorem twice_middle (m d : Nat) : (2 * m + 1) * d = 2 * (d * m) + d := by ring

/-- Rounding stays at or below `m` up to half a unit above it, the half itself included if `m`
is even. -/
theorem roundHalfEven_le_iff {n d m : Nat} (hd : 0 < d) :
    roundHalfEven n d ≤ m ↔ 2 * n < (2 * m + 1) * d ∨ 2 * n = (2 * m + 1) * d ∧ m % 2 = 0 := by
  have parts := Nat.div_add_mod n d
  have small := Nat.mod_lt n hd
  rw [roundHalfEven, twice_middle]
  generalize n / d = q at *
  generalize n % d = r at *
  rcases Nat.lt_trichotomy q m with below | rfl | above
  · have room : d * (q + 1) ≤ d * m := Nat.mul_le_mul_left d below
    rw [Nat.mul_succ] at room
    split_ifs <;> omega
  · split_ifs <;> omega
  · have room : d * (m + 1) ≤ d * q := Nat.mul_le_mul_left d above
    rw [Nat.mul_succ] at room
    split_ifs <;> omega

theorem roundHalfEven_le {n d m : Nat} (hd : 0 < d) (h : n < d * m) : roundHalfEven n d ≤ m := by
  refine (roundHalfEven_le_iff hd).2 (.inl ?_)
  rw [twice_middle]
  omega

theorem le_roundHalfEven {n d m : Nat} (hd : 0 < d) (h : d * m ≤ n) : m ≤ roundHalfEven n d := by
  by_contra below
  obtain ⟨m, rfl⟩ := Nat.exists_eq_succ_of_ne_zero (n := m) (by omega)
  have near := (roundHalfEven_le_iff hd).1 (Nat.le_of_lt_succ (Nat.not_le.1 below))
  rw [twice_middle] at near
  rw [Nat.mul_succ] at h
  omega

/-! ## The exponent -/

section Exponent

variable {num den : Nat} {e : Int}

theorem scaleDown_snd_pos (hden : 0 < den) : 0 < (scaleDown num den e).2 := by
  rw [scaleDown]
  split_ifs
  · exact Nat.mul_pos hden (Nat.pow_pos (by decide))
  · exact hden

theorem scaleDown_natCast (num den m : Nat) : scaleDown num den m = (num, den * 2 ^ m) := by
  rw [scaleDown, if_pos (Int.natCast_nonneg m)]
  rfl

theorem scaleDown_natCast_succ (num den m : Nat) :
    scaleDown num den (m + 1 : Nat) = (num, den * 2 ^ m * 2) := by
  rw [scaleDown_natCast, Nat.pow_succ, Nat.mul_assoc]

/-- Scaled numbers compare to powers of two as the numbers compare to shifted powers. -/
theorem scaleDown_lt_iff (hden : 0 < den) (k : Nat) :
    (scaleDown num den e).1 < (scaleDown num den e).2 * 2 ^ k ↔
      (num / den : ℚ) < 2 ^ (e + k) := by
  have den_pos : (0 : ℚ) < den := by exact_mod_cast hden
  rw [div_lt_iff₀ den_pos, zpow_add₀ two_ne_zero, zpow_natCast, scaleDown]
  split_ifs with sign
  · obtain ⟨m, rfl⟩ := Int.eq_ofNat_of_zero_le sign
    rw [zpow_natCast, ← Nat.cast_lt (α := ℚ)]
    simp only [Int.toNat_natCast, Nat.pow_eq, Nat.cast_mul, Nat.cast_pow, Nat.cast_ofNat]
    rw [mul_comm _ (den : ℚ), mul_assoc]
  · obtain ⟨m, rfl⟩ : ∃ m : Nat, e = -m := ⟨(-e).toNat, by omega⟩
    rw [zpow_neg, zpow_natCast, ← Nat.cast_lt (α := ℚ)]
    simp only [neg_neg, Int.toNat_natCast, Nat.pow_eq, Nat.cast_mul, Nat.cast_pow, Nat.cast_ofNat]
    have power_pos : (0 : ℚ) < 2 ^ m := by positivity
    rw [mul_assoc, inv_mul_eq_div, lt_div_iff₀ power_pos, mul_comm (den : ℚ)]

theorem le_scaleDown_iff (hden : 0 < den) (k : Nat) :
    (scaleDown num den e).2 * 2 ^ k ≤ (scaleDown num den e).1 ↔
      (2 : ℚ) ^ (e + k) ≤ num / den := by
  rw [← Nat.not_lt, scaleDown_lt_iff hden, not_lt]

/-- A quotient lies between the powers of two around the difference of the logarithms. -/
theorem quotient_lt_zpow (hden : 0 < den) :
    (num / den : ℚ) < 2 ^ ((num.log2 : Int) - den.log2 + 1) := by
  have num_lt : (num : ℚ) < 2 ^ (num.log2 + 1) := by exact_mod_cast Nat.lt_log2_self
  have le_den : (2 : ℚ) ^ den.log2 ≤ den := by
    exact_mod_cast Nat.log2_self_le (Nat.pos_iff_ne_zero.1 hden)
  have den_pos : (0 : ℚ) < den := by exact_mod_cast hden
  rw [div_lt_iff₀ den_pos]
  calc (num : ℚ) < 2 ^ (num.log2 + 1) := num_lt
    _ = 2 ^ ((num.log2 : Int) - den.log2 + 1) * 2 ^ den.log2 := by
        rw [← zpow_natCast, ← zpow_natCast, ← zpow_add₀ two_ne_zero]
        congr 1
        push_cast
        ring
    _ ≤ 2 ^ ((num.log2 : Int) - den.log2 + 1) * den := by gcongr

theorem zpow_le_quotient (hnum : num ≠ 0) (hden : 0 < den) :
    (2 : ℚ) ^ ((num.log2 : Int) - den.log2 - 1) ≤ num / den := by
  have le_num : (2 : ℚ) ^ num.log2 ≤ num := by exact_mod_cast Nat.log2_self_le hnum
  have den_lt : (den : ℚ) < 2 ^ (den.log2 + 1) := by exact_mod_cast Nat.lt_log2_self
  have den_pos : (0 : ℚ) < den := by exact_mod_cast hden
  rw [le_div_iff₀ den_pos]
  calc (2 : ℚ) ^ ((num.log2 : Int) - den.log2 - 1) * den
      ≤ 2 ^ ((num.log2 : Int) - den.log2 - 1) * 2 ^ (den.log2 + 1) := by gcongr
    _ = 2 ^ num.log2 := by
        rw [← zpow_natCast, ← zpow_natCast, ← zpow_add₀ two_ne_zero]
        congr 1
        push_cast
        ring
    _ ≤ num := le_num

/-- The exponent is the one that leaves a significand of fifty-three bits, or the least one if
that leaves fewer. -/
theorem roundingExponent_spec (hnum : num ≠ 0) (hden : 0 < den) :
    -1074 ≤ roundingExponent num den ∧
      (num / den : ℚ) < 2 ^ (roundingExponent num den + (53 : Nat)) ∧
      (-1074 < roundingExponent num den →
        (2 : ℚ) ^ (roundingExponent num den + (52 : Nat)) ≤ num / den) := by
  have upper := @quotient_lt_zpow num den hden
  have lower := zpow_le_quotient hnum hden
  obtain ⟨guess, hguess⟩ : ∃ guess, (num.log2 : Int) - den.log2 - 52 = guess := ⟨_, rfl⟩
  have raised : ∀ {a b : Int}, a ≤ b → (2 : ℚ) ^ a ≤ 2 ^ b := zpow_le_zpow_right₀ one_le_two
  -- the first guess is the right one or one too many
  have low : (scaleDown num den guess).1 < (scaleDown num den guess).2 * binade ↔
      (num / den : ℚ) < 2 ^ (guess + (52 : Nat)) := scaleDown_lt_iff hden 52
  have shape : roundingExponent num den =
      max (-1074) (if (num / den : ℚ) < 2 ^ (guess + (52 : Nat)) then guess - 1 else guess) := by
    rw [roundingExponent, hguess]
    simp only [low]
  rw [shape]
  split_ifs with below
  · refine ⟨le_max_left _ _, below.trans_le (raised (by omega)), fun above => ?_⟩
    exact (raised (by omega)).trans lower
  · refine ⟨le_max_left _ _, upper.trans_le (raised (by omega)), fun above => ?_⟩
    exact (raised (by omega)).trans (not_lt.1 below)

end Exponent

/-! ## Finite numbers -/

theorem isFinite_zero (negative : Bool) : (zero negative).isFinite = true := by
  cases negative <;> rfl

theorem isFinite_infinity (negative : Bool) : (infinity negative).isFinite = false := by
  cases negative <;> rfl

theorem isFinite_ofMagnitude {negative : Bool} {magnitude : Nat} (h : magnitude < 2047 * binade) :
    (ofMagnitude negative magnitude).isFinite = true := by
  have field : (ofMagnitude negative magnitude).exponentField = magnitude / binade := by
    rw [exponentField, ofMagnitude, Nat.toUInt64_eq, UInt64.toNat_ofNat']
    simp only [binade, signBit] at *
    split_ifs <;> omega
  rw [isFinite, field, bne_iff_ne]
  have below := Nat.div_lt_of_lt_mul (Nat.mul_comm 2047 binade ▸ h)
  omega

/-- The least natural number that is rounded to an infinity, `2 ^ 1024 - 2 ^ 970`. -/
def overflowBound : Nat := (2 ^ 54 - 1) * 2 ^ 970

theorem overflowBound_pos : 0 < overflowBound :=
  Nat.mul_pos (by decide) (pow_pos two_pos 970)

section Quotient

variable {num den : Nat}

/-- At the upper end of the range numbers are compared in a unit of their own. -/
theorem exists_unit (num den : Nat) : ∃ unit, scaleDown num den 970 = (num, unit) ∧
    scaleDown num den 971 = (num, unit * 2) ∧ overflowBound * den = (2 ^ 54 - 1) * unit :=
  ⟨den * 2 ^ 970, scaleDown_natCast num den 970, scaleDown_natCast_succ num den 970,
    by rw [overflowBound, Nat.mul_assoc, Nat.mul_comm _ den]⟩

/-- The bits that rounding a quotient leads to, were there no largest exponent. -/
def magnitude (num den : Nat) : Nat :=
  (roundingExponent num den + 1074).toNat * binade +
    roundHalfEven (scaleDown num den (roundingExponent num den)).1
      (scaleDown num den (roundingExponent num den)).2

/-- Finite are those whose bits leave out the largest exponent. -/
theorem isFinite_ofRatio_iff_magnitude {negative : Bool} (hnum : num ≠ 0) :
    (ofRatio negative num den).isFinite = true ↔ magnitude num den < 2047 * binade := by
  rw [ofRatio, if_neg hnum, magnitude]
  -- the pair is taken apart first: reduced around it, the goal is too deep for the kernel
  extract_lets e
  change _ ↔ (e + 1074).toNat * binade +
    roundHalfEven (scaleDown num den e).1 (scaleDown num den e).2 < 2047 * binade
  generalize scaleDown num den e = scaled
  obtain ⟨n, d⟩ := scaled
  dsimp only
  generalize (e + 1074).toNat * binade + roundHalfEven n d = m
  split_ifs with large
  · rw [isFinite_infinity]
    exact iff_of_false Bool.false_ne_true (Nat.not_lt.2 large)
  · exact iff_of_true (isFinite_ofMagnitude (Nat.not_le.1 large)) (Nat.not_le.1 large)

/-- Above the exponent of the largest doubles there is no room for any significand, and below it
there is for all of them. -/
theorem magnitude_lt_iff (hnum : num ≠ 0) (hden : 0 < den) :
    magnitude num den < 2047 * binade ↔ num < overflowBound * den := by
  rw [magnitude]
  obtain ⟨least, upper, lower⟩ := roundingExponent_spec hnum hden
  generalize roundingExponent num den = e at *
  have raised : ∀ {a b : Int}, a ≤ b → (2 : ℚ) ^ a ≤ 2 ^ b := zpow_le_zpow_right₀ one_le_two
  have room : 0 < (scaleDown num den e).2 := scaleDown_snd_pos hden
  obtain ⟨unit, at_970, at_971, bound⟩ := exists_unit num den
  rw [bound]
  rcases lt_trichotomy e 971 with below | rfl | above
  · have fits := roundHalfEven_le room ((scaleDown_lt_iff hden 53).2 upper)
    have small := (scaleDown_lt_iff hden 53).2
      (upper.trans_le (raised (show e + (53 : Nat) ≤ 970 + (53 : Nat) by omega)))
    rw [at_970] at small
    simp only [binade] at *
    omega
  · -- the largest significand is odd, so the tie above it is rounded up
    rw [at_971] at room ⊢
    have nearest := roundHalfEven_le_iff (n := num) (m := 2 ^ 53 - 1) room
    simp only [binade] at *
    omega
  · have large := le_roundHalfEven room ((le_scaleDown_iff hden 52).2 (lower (by omega)))
    have much := (le_scaleDown_iff hden 54).2
      ((raised (show (970 + (54 : Nat) : Int) ≤ e + (52 : Nat) by omega)).trans (lower (by omega)))
    rw [at_970] at much
    simp only [binade] at *
    omega

/-- **The range of doubles.**  A quotient is rounded to a finite double exactly if it is below the
bound. -/
theorem isFinite_ofRatio_iff {negative : Bool} (hden : 0 < den) :
    (ofRatio negative num den).isFinite = true ↔ num < overflowBound * den := by
  by_cases hnum : num = 0
  · rw [ofRatio, if_pos hnum, isFinite_zero, hnum]
    exact iff_of_true rfl (Nat.mul_pos overflowBound_pos hden)
  · rw [isFinite_ofRatio_iff_magnitude hnum, magnitude_lt_iff hnum hden]

end Quotient

end Binary64

namespace Decimal

/-- Digits with `k` of them behind the period are read as a finite double exactly if the number
is below the bound. -/
theorem isFinite_toBinary64_iff {negative : Bool} {v k : Nat} :
    (toBinary64 negative v (-(k : Int))).isFinite = true ↔ v < Binary64.overflowBound * 10 ^ k := by
  have power_pos : 0 < 10 ^ k := Nat.pow_pos (by decide)
  rw [toBinary64]
  split_ifs with hv high whole tiny
  · rw [hv, Binary64.isFinite_zero]
    exact iff_of_true rfl (Nat.mul_pos Binary64.overflowBound_pos power_pos)
  · omega
  · obtain rfl : k = 0 := by omega
    simpa using @Binary64.isFinite_ofRatio_iff v 1 negative Nat.one_pos
  · -- far below one
    rw [Binary64.isFinite_zero]
    refine iff_of_true rfl ?_
    calc v < 2 ^ (v.log2 + 1) := Nat.lt_log2_self
      _ ≤ 2 ^ k := Nat.pow_le_pow_right (by decide) (by omega)
      _ ≤ 10 ^ k := Nat.pow_le_pow_left (by decide) k
      _ ≤ Binary64.overflowBound * 10 ^ k := Nat.le_mul_of_pos_left _ Binary64.overflowBound_pos
  · rw [neg_neg, Int.toNat_natCast, Nat.pow_eq]
    exact Binary64.isFinite_ofRatio_iff power_pos

end Decimal

end Reachability

/-
# Numerals of JSON

The numbers of RFC 8259: an optional minus sign, a whole part without a superfluous zero, then
perhaps a fraction and perhaps an exponent.  Each is read as a whole, if what stands behind it does
not go on the number.

Main definitions:

* `Json.Numeral` : a number as it is written;
* `Json.Numeral.text`, `Json.Numeral.document` : its text and the document that it is;
* `Json.EndsNumber` : a text that no number goes on with.

Main results:

* `number?_append` : a numeral is read as its document;
* `Numeral.document_ofInt` : an integer of 64 bits, with a sign or without, is that integer.
-/
import Reachability.Document.Json.Reader
import Reachability.Proofs.Number.Digits

namespace Reachability.Json

open Decimal (IsDigits EndsDigits)

/-! ## Numerals -/

/-- A zero, or digits that begin with another. -/
def IsWhole (ds : List Char) : Prop := ds = ['0'] ∨ IsDigits ds ∧ ds.head? ≠ some '0'

/-- The power of ten of a numeral. -/
structure Exponent where
  mark : Char
  sign : Option Char
  digits : List Char
  isMark : mark = 'e' ∨ mark = 'E'
  isSign : sign = none ∨ sign = some '+' ∨ sign = some '-'
  isDigits : IsDigits digits

def Exponent.text (e : Exponent) : List Char := e.mark :: (e.sign.toList ++ e.digits)

def Exponent.value (e : Exponent) : Int :=
  if e.sign = some '-' then -(Decimal.value e.digits : Int) else Decimal.value e.digits

/-- A number as it is written. -/
structure Numeral where
  negative : Bool
  whole : List Char
  fraction : Option (List Char)
  exponent : Option Exponent
  isWhole : IsWhole whole
  isFraction : ∀ ds ∈ fraction, IsDigits ds

namespace Numeral

def text (n : Numeral) : List Char :=
  (if n.negative then ['-'] else []) ++
    (n.whole ++ (n.fraction.elim [] ('.' :: ·) ++ n.exponent.elim [] Exponent.text))

/-- The digits and the power of ten that are taken. -/
def literal (n : Numeral) : Literal :=
  let whole := n.whole.foldl Literal.pushWhole ⟨0, 0, false⟩
  let broken := n.fraction.elim whole fun ds => (ds.foldl Literal.pushFraction (whole, false)).1
  n.exponent.elim broken fun e => { broken with exponent := broken.exponent + e.value }

/-- The document that a numeral is. -/
def document (n : Numeral) : Document :=
  n.literal.document n.negative (n.fraction.isSome || n.exponent.isSome)

end Numeral

/-! ## Parts of a number -/

/-- A text that no number goes on with. -/
def EndsNumber (rest : List Char) : Prop :=
  ∀ c ∈ rest.head?, Text.isDigit c = false ∧ c ≠ '.' ∧ c ≠ 'e' ∧ c ≠ 'E'

variable {ds rest : List Char}

theorem EndsNumber.endsDigits (h : EndsNumber rest) : EndsDigits rest :=
  fun c first => (h c first).1

theorem someDigits?_append (digits : IsDigits ds) (ends : EndsDigits rest) :
    someDigits? (ds ++ rest) = some (ds, rest) := by
  rw [someDigits?, digits.takeWhile_append ends, digits.dropWhile_append ends]
  exact if_neg (by simpa using digits.ne_nil)

theorem wholeDigits?_append (whole : IsWhole ds) (ends : EndsDigits rest) :
    wholeDigits? (ds ++ rest) = some (ds, rest) := by
  rcases whole with rfl | ⟨digits, noZero⟩
  · cases rest with
    | nil => rfl
    | cons c rest => simp [wholeDigits?, ends c rfl]
  · rw [wholeDigits?]
    · exact someDigits?_append digits ends
    · intro more same
      obtain ⟨d, ds, rfl, -⟩ := digits.exists_eq_cons
      exact noZero (congrArg some (List.cons.inj same).1)

theorem exponent?_append (e : Exponent) (ends : EndsDigits rest) :
    exponent? (e.sign.toList ++ e.digits ++ rest) = some (e.value, rest) := by
  obtain ⟨mark, sign, ds, isMark, isSign, digits⟩ := e
  have taken := someDigits?_append digits ends
  rcases isSign with rfl | rfl | rfl
  -- without a sign the reader has to find that the first digit is none
  · obtain ⟨d, ds, rfl, digit⟩ := digits.exists_eq_cons
    rw [Option.toList_none, List.nil_append, exponent?]
    · rw [taken]
      rfl
    all_goals
      rintro more same
      rw [(List.cons.inj same).1] at digit
      exact absurd digit (by decide)
  all_goals
    change (someDigits? (ds ++ rest)).map _ = _
    rw [taken]
    rfl

/-- A fraction is taken as a whole, or none is found. -/
theorem fractionPart?_append (n : Literal) {fraction : Option (List Char)}
    (digits : ∀ ds ∈ fraction, IsDigits ds) (ends : EndsDigits rest)
    (noPoint : rest.head? ≠ some '.') :
    fractionPart? n (fraction.elim [] ('.' :: ·) ++ rest) = some
      (fraction.elim n fun ds => (ds.foldl Literal.pushFraction (n, false)).1,
        fraction.isSome, rest) := by
  cases fraction with
  | none =>
    rw [Option.elim_none, List.nil_append, fractionPart?]
    · rfl
    · rintro more rfl
      exact noPoint rfl
  | some ds =>
    change (someDigits? (ds ++ rest)).map _ = _
    rw [someDigits?_append (digits ds rfl) ends]
    rfl

/-- An exponent is taken as a whole, or none is found. -/
theorem exponentPart?_append (n : Literal) (exponent : Option Exponent) (ends : EndsNumber rest) :
    exponentPart? n (exponent.elim [] Exponent.text ++ rest) = some
      (exponent.elim n fun e => { n with exponent := n.exponent + e.value },
        exponent.isSome, rest) := by
  cases exponent with
  | none =>
    cases rest with
    | nil => rfl
    | cons c rest =>
      obtain ⟨-, -, noMark, noCapital⟩ := ends c rfl
      exact if_neg (not_or.2 ⟨noMark, noCapital⟩)
  | some e =>
    rw [Option.elim_some, Exponent.text, List.cons_append, exponentPart?, if_pos e.isMark,
      exponent?_append e ends.endsDigits]
    rfl

/-- Neither digits nor a point go on with an exponent. -/
theorem head?_exponent (exponent : Option Exponent) (ends : EndsNumber rest) :
    EndsDigits (exponent.elim [] Exponent.text ++ rest) ∧
      (exponent.elim [] Exponent.text ++ rest).head? ≠ some '.' := by
  cases exponent with
  | none => exact ⟨ends.endsDigits, fun first => (ends '.' first).2.1 rfl⟩
  | some e =>
    have first : (e.text ++ rest).head? = some e.mark := rfl
    constructor
    · intro c there
      obtain rfl := Option.some.inj (first.symm.trans there)
      rcases e.isMark with marked | marked <;> rw [marked] <;> decide
    · change some e.mark ≠ some '.'
      rcases e.isMark with marked | marked <;> rw [marked] <;> decide

/-- No digit goes on a whole part. -/
theorem endsDigits_fraction (fraction : Option (List Char)) (ends : EndsDigits rest) :
    EndsDigits (fraction.elim [] ('.' :: ·) ++ rest) := by
  cases fraction with
  | none => exact ends
  | some ds =>
    intro c first
    obtain rfl := Option.some.inj first
    decide

/-! ## Numbers -/

theorem IsWhole.exists_eq_cons (whole : IsWhole ds) :
    ∃ d more, ds = d :: more ∧ Text.isDigit d = true := by
  rcases whole with rfl | ⟨digits, -⟩
  · exact ⟨'0', [], rfl, rfl⟩
  · exact digits.exists_eq_cons

/-- A whole part has no sign. -/
theorem number?_of_isWhole (whole : IsWhole ds) (rest : List Char) :
    number? (ds ++ rest) = unsigned? false (ds ++ rest) := by
  obtain ⟨d, more, rfl, digit⟩ := whole.exists_eq_cons
  rw [number?]
  intro more same
  rw [(List.cons.inj same).1] at digit
  exact absurd digit (by decide)

/-- **Numerals are read.**  A numeral is read as its document, whatever stands behind it that does
not go on the number. -/
theorem number?_append (n : Numeral) (ends : EndsNumber rest) :
    number? (n.text ++ rest) = some (n.document, rest) := by
  have apart := head?_exponent n.exponent ends
  -- the three parts are taken from behind, since each needs to know what it ends at
  have unsigned : unsigned? n.negative (n.whole ++ (n.fraction.elim [] ('.' :: ·) ++
      (n.exponent.elim [] Exponent.text ++ rest))) = some (n.document, rest) := by
    rw [unsigned?, wholeDigits?_append n.isWhole (endsDigits_fraction n.fraction apart.1)]
    simp only [Option.bind_eq_bind, Option.bind_some,
      fractionPart?_append _ n.isFraction apart.1 apart.2, exponentPart?_append _ _ ends]
    rfl
  cases sign : n.negative with
  | true =>
    rw [sign] at unsigned
    rw [Numeral.text, sign, if_pos rfl, List.singleton_append, List.cons_append,
      List.append_assoc, List.append_assoc]
    exact unsigned
  | false =>
    rw [sign] at unsigned
    rw [Numeral.text, sign, if_neg Bool.false_ne_true, List.nil_append, List.append_assoc,
      List.append_assoc, number?_of_isWhole n.isWhole]
    exact unsigned

theorem Numeral.exists_text_eq_cons (n : Numeral) :
    ∃ c cs, n.text = c :: cs ∧ (c = '-' ∨ Text.isDigit c = true) := by
  obtain ⟨d, more, parts, digit⟩ := n.isWhole.exists_eq_cons
  cases sign : n.negative with
  | true => exact ⟨'-', _, by rw [text, sign]; rfl, .inl rfl⟩
  | false => exact ⟨d, _, by rw [text, sign, parts]; rfl, .inr digit⟩

/-! ## Integers -/

/-- The digits of a number are a whole part. -/
theorem isWhole_digits (n : Nat) : IsWhole (Decimal.digits n) := by
  by_cases zero : (Decimal.digits n).head? = some '0'
  · obtain ⟨ds, parts⟩ := List.head?_eq_some_iff.1 zero
    rw [parts, Decimal.eq_nil_of_zero_cons parts]
    exact .inl rfl
  · exact .inr ⟨Decimal.isDigits_digits n, zero⟩

theorem isDigits_of_mem_none : ∀ ds ∈ (none : Option (List Char)), IsDigits ds :=
  fun ds mem => absurd mem (Option.not_mem_none ds)

/-- An integer in decimal notation. -/
def Numeral.ofInt (i : Int) : Numeral where
  negative := i < 0
  whole := Decimal.digits i.natAbs
  fraction := none
  exponent := none
  isWhole := isWhole_digits i.natAbs
  isFraction := isDigits_of_mem_none

theorem Numeral.text_ofInt (i : Int) : (ofInt i).text = (Decimal.ofInt i).toList := by
  rw [Decimal.toList_ofInt, text]
  by_cases below : i < 0 <;> simp [ofInt, below]

theorem pushWhole_digitChar {v d : Nat} (digit : d < 10) (small : v * 10 + d < UInt64.size) :
    Literal.pushWhole ⟨v, 0, false⟩ (Decimal.digitChar d) = ⟨v * 10 + d, 0, false⟩ := by
  have fits : ¬((false || decide (v * 10 + d ≥ significandLimit)) = true) := by
    simpa [significandLimit] using small
  rw [Literal.pushWhole, Decimal.digitValue_digitChar digit]
  exact if_neg fits

/-- The digits of a number that fits are all taken. -/
theorem foldl_pushWhole_digits {n : Nat} (small : n < UInt64.size) :
    (Decimal.digits n).foldl Literal.pushWhole ⟨0, 0, false⟩ = ⟨n, 0, false⟩ := by
  induction n using Decimal.digits.induct with
  | case1 n digit =>
    rw [Decimal.digits_of_lt digit, List.foldl_cons, List.foldl_nil,
      pushWhole_digitChar digit (by omega), Nat.zero_mul, Nat.zero_add]
  | case2 n large ih =>
    have split : n / 10 * 10 + n % 10 = n := by omega
    rw [Decimal.digits_of_le (Nat.not_lt.1 large), List.foldl_append, ih (by omega),
      List.foldl_cons, List.foldl_nil, pushWhole_digitChar (by omega) (by omega), split]

/-- An integer of 64 bits, with a sign or without, is the integer that it is written as. -/
theorem Numeral.document_ofInt {i : Int} (low : Int64.minValue.toInt ≤ i)
    (high : i < UInt64.size) : (ofInt i).document = .integer i := by
  have least : Int64.minValue.toInt = -0x8000000000000000 := by decide
  have size : UInt64.size = 0x10000000000000000 := rfl
  have taken : (ofInt i).literal = ⟨i.natAbs, 0, false⟩ :=
    foldl_pushWhole_digits (n := i.natAbs) (by omega)
  have whole : (ofInt i).document = wholeNumber (decide (i < 0)) ⟨i.natAbs, 0, false⟩ := by
    rw [document, taken]
    rfl
  rw [whole, wholeNumber, if_neg Bool.false_ne_true]
  by_cases below : i < 0
  · -- a minus sign before a zero would make it a double
    have fits : i.natAbs ≠ 0 ∧ i.natAbs ≤ Int64.minValue.toInt.natAbs := by omega
    have same : -(i.natAbs : Int) = i := by omega
    rw [if_neg (by simpa using below), if_pos fits, same]
  · have same : (i.natAbs : Int) = i := by omega
    rw [if_pos (by simpa using below), same]

end Reachability.Json

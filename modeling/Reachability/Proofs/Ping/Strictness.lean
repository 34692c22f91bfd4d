/-
# Which outputs are rejected

The statistics of an output are all or nothing: where a number that counts is malformed, there
are none.  Not every number of a recognised line counts, though.  A time that is only an upper
bound is skipped, whatever stands there, and so are the numbers of a summary line that another
one follows.

Main definitions:

* `IsCount`, `IsDecimal` : well-formed numbers;
* `Reply.IsMalformed`, `Summary.IsMalformed` : a line with a number that is not well-formed;
* `Reply.IsRejected` : a reply line that leaves an output without statistics;
* `Statistics.Rejects` : the outputs without statistics.

Main results:

* `count?_eq_some_iff`, `isSome_decimal?_iff` : exactly the well-formed numbers are read;
* `rejected_iff` : an output is rejected exactly if it is one of `Rejects`, and then wholly;
* `accepted_with_malformed_numbers` : two outputs that are accepted all the same.
-/
import Reachability.Ping.Statistics
import Reachability.Proofs.Text.Cutting

namespace Reachability.Ping

/-! ## Well-formed numbers -/

/-- At least one ASCII digit, and nothing else. -/
def IsNumeral (token : List Char) : Prop := token ≠ [] ∧ ∀ c ∈ token, '0' ≤ c ∧ c ≤ '9'

/-- A numeral of a value up to the largest count. -/
def IsCount (token : List Char) : Prop := IsNumeral token ∧ Decimal.value token ≤ maxCount

/-- A numeral, and perhaps a period with another numeral, of a value in the range of doubles. -/
def IsDecimal (token : List Char) : Prop :=
  ∃ whole fraction, IsNumeral whole ∧
    (token = whole ∧ fraction = [] ∨ token = whole ++ '.' :: fraction ∧ IsNumeral fraction) ∧
    (Decimal.toBinary64 false (Decimal.value (whole ++ fraction))
      (-(fraction.length : Int))).isFinite = true

theorem isDigit_iff {c : Char} : Text.isDigit c = true ↔ '0' ≤ c ∧ c ≤ '9' := by
  rw [Text.isDigit, Bool.and_eq_true, decide_eq_true_eq, decide_eq_true_eq, Char.le_def,
    Char.le_def, UInt32.le_iff_toNat_le, UInt32.le_iff_toNat_le]
  exact Iff.rfl

theorem isDigits_iff {token : List Char} : isDigits token = true ↔ IsNumeral token := by
  rw [isDigits, Bool.and_eq_true, List.all_eq_true, IsNumeral]
  simp only [isDigit_iff, Bool.not_eq_true', List.isEmpty_eq_false_iff]

/-- A well-formed count is read as its value. -/
theorem count?_eq_some_iff {token : List Char} {n : Int32} :
    count? token = some n ↔ IsCount token ∧ n = Int32.ofNat (Decimal.value token) := by
  by_cases numeral : IsNumeral token
  · have digits := isDigits_iff.2 numeral
    rw [isDigits, Bool.and_eq_true, Bool.not_eq_true'] at digits
    rw [count?, digits.1, digits.2, IsCount]
    by_cases small : Decimal.value token ≤ maxCount <;> simp [numeral, small, eq_comm]
  · have digits := mt isDigits_iff.1 numeral
    rw [isDigits, Bool.and_eq_true, Bool.not_eq_true', not_and] at digits
    rw [count?, IsCount]
    cases empty : token.isEmpty with
    | true => simp [numeral]
    | false => simp [numeral, digits empty]

/-- Exactly the well-formed counts are read. -/
theorem isSome_count?_iff {token : List Char} : (count? token).isSome = true ↔ IsCount token := by
  simp [Option.isSome_iff_exists, count?_eq_some_iff]

/-- A count fits into an integer of 32 bits. -/
theorem toInt_ofNat_of_le_maxCount {n : Nat} (h : n ≤ maxCount) : (Int32.ofNat n).toInt = n :=
  Int32.toInt_ofNat_of_lt (Nat.lt_of_le_of_lt h (by decide))

theorem toInt_of_count? {token : List Char} {n : Int32} (h : count? token = some n) :
    n.toInt = Decimal.value token := by
  obtain ⟨isCount, rfl⟩ := count?_eq_some_iff.1 h
  exact toInt_ofNat_of_le_maxCount isCount.2

/-- The parts of a decimal are those that make it up. -/
theorem decimalParts?_eq_some_iff {token whole fraction : List Char} :
    decimalParts? token = some (whole, fraction) ↔ IsNumeral whole ∧
      (token = whole ∧ fraction = [] ∨ token = whole ++ '.' :: fraction ∧ IsNumeral fraction) := by
  have noPeriod : ∀ {digits : List Char}, IsNumeral digits → '.' ∉ digits := by
    intro digits numeral h
    exact absurd (numeral.2 '.' h) (by decide)
  unfold decimalParts?
  constructor
  · intro h
    split at h
    · next before after cut =>
      obtain ⟨rfl, -⟩ := Text.eq_of_cutFirst? cut
      split at h
      · next digits =>
        obtain ⟨rfl, rfl⟩ := by simpa using h
        rw [Bool.and_eq_true, isDigits_iff, isDigits_iff] at digits
        exact ⟨digits.1, Or.inr ⟨rfl, digits.2⟩⟩
      · cases h
    · split at h
      · next digits =>
        obtain ⟨rfl, rfl⟩ := by simpa using h
        exact ⟨isDigits_iff.1 digits, Or.inl ⟨rfl, rfl⟩⟩
      · cases h
  · rintro ⟨numeral, ⟨rfl, rfl⟩ | ⟨rfl, numeral'⟩⟩
    · simp only [Text.cutFirst?_eq_none (noPeriod numeral), isDigits_iff.2 numeral, if_true]
    · simp only [Text.cutFirst?_append_cons (noPeriod numeral), isDigits_iff.2 numeral,
        isDigits_iff.2 numeral', Bool.and_true, if_true]

/-- Exactly the well-formed decimals are read. -/
theorem isSome_decimal?_iff {token : List Char} :
    (decimal? token).isSome = true ↔ IsDecimal token := by
  rw [decimal?, IsDecimal]
  cases parts : decimalParts? token with
  | none =>
    refine ⟨fun h => (by cases h), ?_⟩
    rintro ⟨whole, fraction, numeral, shape, -⟩
    rw [decimalParts?_eq_some_iff.2 ⟨numeral, shape⟩] at parts
    cases parts
  | some found =>
    obtain ⟨whole, fraction⟩ := found
    obtain ⟨numeral, shape⟩ := decimalParts?_eq_some_iff.1 parts
    have unique : ∀ {whole' fraction' : List Char}, IsNumeral whole' →
        (token = whole' ∧ fraction' = [] ∨
          token = whole' ++ '.' :: fraction' ∧ IsNumeral fraction') →
        whole' = whole ∧ fraction' = fraction := by
      intro whole' fraction' numeral' shape'
      have same := decimalParts?_eq_some_iff.2 ⟨numeral', shape'⟩
      rw [parts] at same
      simpa [eq_comm] using same
    simp only [Option.bind_eq_bind, Option.bind_some]
    constructor
    · intro h
      refine ⟨whole, fraction, numeral, shape, ?_⟩
      by_contra infinite
      simp [infinite] at h
    · rintro ⟨whole', fraction', numeral', shape', finite⟩
      obtain ⟨rfl, rfl⟩ := unique numeral' shape'
      simp [finite]

instance (token : List Char) : Decidable (IsNumeral token) :=
  decidable_of_iff _ isDigits_iff

instance (token : List Char) : Decidable (IsCount token) :=
  decidable_of_iff _ isSome_count?_iff

instance (token : List Char) : Decidable (IsDecimal token) :=
  decidable_of_iff _ isSome_decimal?_iff

/-! ## Units -/

theorem withoutUnit_append (time : List Char) : withoutUnit (time ++ "ms".toList) = time := by
  have reversed : (time ++ "ms".toList).reverse = 's' :: 'm' :: time.reverse := by
    rw [List.reverse_append]
    rfl
  rw [withoutUnit, reversed]
  exact List.reverse_reverse time

/-- Where no unit stands, none is taken away. -/
theorem withoutUnit_eq_self {time : List Char} (h : ∀ number, time ≠ number ++ "ms".toList) :
    withoutUnit time = time := by
  rw [withoutUnit]
  split
  · next digits reversed =>
    refine absurd ?_ (h digits.reverse)
    rw [← List.reverse_reverse time, reversed]
    simp
  · rfl

/-! ## Malformed lines -/

/-- A reply line with a malformed number. -/
def Reply.IsMalformed (r : Reply) : Prop := ¬IsCount r.bytes ∨ ¬IsDecimal (withoutUnit r.time)

/-- A reply line with a malformed number that counts: its bytes, or its time if that is exact. -/
def Reply.IsRejected (r : Reply) : Prop :=
  ¬IsCount r.bytes ∨ r.exact = true ∧ ¬IsDecimal (withoutUnit r.time)

/-- A summary line with a malformed number. -/
def Summary.IsMalformed (s : Summary) : Prop :=
  ¬IsCount s.transmitted ∨ ¬IsCount s.received ∨ ¬IsDecimal s.loss

instance (r : Reply) : Decidable r.IsMalformed := inferInstanceAs (Decidable (_ ∨ _))

instance (s : Summary) : Decidable s.IsMalformed := inferInstanceAs (Decidable (_ ∨ _))

/-- A reply line is measured unless it is rejected. -/
theorem Reply.isSome_measurement?_iff {r : Reply} :
    r.measurement?.isSome = true ↔ ¬r.IsRejected := by
  rw [measurement?, IsRejected, not_or, not_and, Classical.not_not, Classical.not_not,
    ← isSome_count?_iff, ← isSome_decimal?_iff]
  cases count? r.bytes with
  | none => simp
  | some bytes =>
    cases hexact : r.exact with
    | false => simp
    | true => cases decimal? (withoutUnit r.time) <;> simp

namespace Statistics

/-- The summaries among the lines, in order. -/
def summaries (lines : List (List Char)) : List Summary := lines.filterMap Summary.find?

/-- The outputs without statistics: there is no summary line, or a reply line or the last
summary line has a malformed number that counts. -/
def Rejects (output : String) : Prop :=
  summaries (Text.lines output.toList) = [] ∨
    (∃ r ∈ replies (Text.lines output.toList), r.IsRejected) ∨
    ∃ s, (summaries (Text.lines output.toList)).getLast? = some s ∧ s.IsMalformed

theorem summary?_eq_getLast? (lines : List (List Char)) :
    summary? lines = (summaries lines).getLast? :=
  List.getLast?_filterMap.symm

/-- A list is mapped if all of its members are. -/
theorem isSome_mapM_iff {α β : Type} {f : α → Option β} {as : List α} :
    (as.mapM f).isSome = true ↔ ∀ a ∈ as, (f a).isSome = true := by
  induction as with
  | nil => simp
  | cons a as ih =>
    rw [List.mapM_cons, List.forall_mem_cons, ← ih]
    cases f a with
    | none => simp
    | some b => cases as.mapM f <;> simp

/-- The replies are measured unless one of them is rejected. -/
theorem isSome_mapM_measurement?_iff {rs : List Reply} :
    (rs.mapM Reply.measurement?).isSome = true ↔ ¬∃ r ∈ rs, r.IsRejected := by
  rw [isSome_mapM_iff, not_exists]
  simp only [Reply.isSome_measurement?_iff, not_and]

/-- There are statistics unless the output is rejected. -/
theorem isSome_ofOutput?_iff {output : String} :
    (ofOutput? output).isSome = true ↔ ¬Rejects output := by
  rw [Rejects, ofOutput?, ofLines?]
  generalize Text.lines output.toList = lines
  rw [not_or, not_or, ← isSome_mapM_measurement?_iff, summary?_eq_getLast?]
  cases measured : (replies lines).mapM Reply.measurement? with
  | none => simp
  | some measurements =>
    cases last : (summaries lines).getLast? with
    | none =>
      rw [List.getLast?_eq_none_iff] at last
      simp [last]
    | some summary =>
      have found : summaries lines ≠ [] := by
        intro none_found
        rw [none_found] at last
        cases last
      -- only the last summary is looked at
      have malformed : (∃ s, some summary = some s ∧ s.IsMalformed) ↔ summary.IsMalformed := by
        simp
      rw [malformed, Summary.IsMalformed, not_or, not_or, Classical.not_not, Classical.not_not,
        Classical.not_not, ← isSome_count?_iff, ← isSome_count?_iff, ← isSome_decimal?_iff]
      simp only [Option.bind_eq_bind, Option.bind_some]
      cases count? summary.transmitted with
      | none => simp
      | some transmitted =>
        cases count? summary.received with
        | none => simp
        | some received => cases decimal? summary.loss <;> simp [found]

/-- Statistics that are read are valid. -/
theorem valid_of_ofOutput? {output : String} {s : Statistics} (h : ofOutput? output = some s) :
    s.valid = true := by
  simp only [ofOutput?, ofLines?, Option.bind_eq_bind, Option.bind_eq_some_iff,
    Option.some.injEq] at h
  obtain ⟨-, -, -, -, -, -, -, -, -, -, rfl⟩ := h
  rfl

end Statistics

/-! ## Readers -/

/-- A reader either has the statistics of the output, or nothing at all. -/
theorem Reader.read_cases (reader : Reader) (output : String) :
    (¬Statistics.Rejects output ∧ (reader.read output).isValid = true) ∨
      Statistics.Rejects output ∧ reader.read output = ⟨.invalid, .absent⟩ := by
  rw [Reader.read]
  cases h : Statistics.ofOutput? output with
  | none =>
    refine Or.inr ⟨?_, rfl⟩
    have rejects := mt Statistics.isSome_ofOutput?_iff.2 (by rw [h]; decide)
    exact Classical.not_not.1 rejects
  | some statistics =>
    refine Or.inl ⟨Statistics.isSome_ofOutput?_iff.1 (by rw [h]; rfl), ?_⟩
    exact Statistics.valid_of_ofOutput? h

/-- **What is rejected.**  An output is rejected exactly if it has no summary line, or a reply
line with a malformed number of bytes or a malformed exact time, or a malformed number in the
last summary line; and then nothing of it is left.  So a malformed number in a recognised line
goes unseen only as the time behind a `<` or in a summary line that another one follows. -/
theorem rejected_iff (reader : Reader) (output : String) :
    ((reader.read output).isValid = false ↔ Statistics.Rejects output) ∧
    ((reader.read output).isValid = false → reader.read output = ⟨.invalid, .absent⟩) ∧
    (∀ r ∈ Statistics.replies (Text.lines output.toList), r.IsMalformed →
      (reader.read output).isValid = false ∨ IsCount r.bytes ∧ r.exact = false) ∧
    ∀ before s after, Statistics.summaries (Text.lines output.toList) = before ++ s :: after →
      s.IsMalformed → (reader.read output).isValid = false ∨ after ≠ [] := by
  have valid_iff : (reader.read output).isValid = false ↔ Statistics.Rejects output := by
    rcases reader.read_cases output with ⟨accepts, valid⟩ | ⟨rejects, nothing⟩
    · simp [valid, accepts]
    · simp [nothing, rejects, Reader.isValid, Statistics.absent]
  refine ⟨valid_iff, fun invalid => ?_, fun r hr malformed => ?_,
    fun before s after h malformed => ?_⟩
  · rcases reader.read_cases output with ⟨accepts, -⟩ | ⟨-, nothing⟩
    · exact absurd (valid_iff.1 invalid) accepts
    · exact nothing
  · by_cases rejected : r.IsRejected
    · exact Or.inl (valid_iff.2 (Or.inr (Or.inl ⟨r, hr, rejected⟩)))
    · rw [Reply.IsRejected, not_or, not_and, Classical.not_not, Classical.not_not] at rejected
      refine Or.inr ⟨rejected.1, ?_⟩
      rcases malformed with bytes | time
      · exact absurd rejected.1 bytes
      · exact Bool.eq_false_iff.2 fun exact => time (rejected.2 exact)
  · rw [valid_iff]
    -- a summary that none follows is the last one
    by_cases last : after = []
    · refine Or.inl (Or.inr (Or.inr ⟨s, ?_, malformed⟩))
      rw [h, last, List.getLast?_append]
      rfl
    · exact Or.inr last

/-- A malformed number of bytes. -/
theorem rejected_with_malformed_bytes :
    let output := "6a bytes from h: time<1\n1 packets transmitted, 1 received, 0% packet loss"
    (∃ r ∈ Statistics.replies (Text.lines output.toList), r.IsMalformed ∧ ¬IsCount r.bytes) ∧
      (Reader.new.read output).isValid = false ∧
      Reader.new.read output = ⟨.invalid, .absent⟩ := by
  intro output
  have found : ∃ r ∈ Statistics.replies (Text.lines output.toList),
      r.IsMalformed ∧ ¬IsCount r.bytes := by
    decide +kernel
  obtain ⟨r, hr, malformed, bytes⟩ := found
  obtain ⟨-, nothing, replies, -⟩ := rejected_iff Reader.new output
  have invalid := (replies r hr malformed).resolve_right fun h => bytes h.1
  exact ⟨⟨r, hr, malformed, bytes⟩, invalid, nothing invalid⟩

/-- A malformed time behind a `<`, and a malformed number in a summary line that another one
follows: both outputs have statistics. -/
theorem accepted_with_malformed_numbers :
    let bounded := "1 bytes from h: time<x\n1 packets transmitted, 1 received, 0% packet loss"
    let followed := "x packets transmitted, 1 received, 0% packet loss\n" ++
      "1 packets transmitted, 1 received, 0% packet loss"
    (∃ r ∈ Statistics.replies (Text.lines bounded.toList), r.IsMalformed) ∧
      (Reader.new.read bounded).isValid = true ∧
      (∃ s ∈ Statistics.summaries (Text.lines followed.toList), s.IsMalformed) ∧
      (Reader.new.read followed).isValid = true := by
  decide +kernel

end Reachability.Ping

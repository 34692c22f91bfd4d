/-
# What a reader knows after its calls

Statistics are taken together from several lines.  Here it is said line by line what they have to
be, and that a reader has them after it has read an output, whatever was called before.

Main definitions:

* `Statistics.IsLastSummary` : the last line that a summary is found on;
* `Statistics.IsWellFormed` : lines whose numbers that count are all well-formed;
* `Statistics.AreOf` : statistics that say of the lines what is to be said;
* `Reader.Call`, `Reader.calls` : calls of a reader, one after another.

Main results:

* `ofLines?_eq_some_iff` : what the statistics of lines are made from;
* `isSome_ofOutput?_iff_isWellFormed`, `areOf_of_ofLines?` : well-formed lines have statistics, and
  theirs;
* `known_after_calls` : what a reader knows depends on its last call alone.
-/
import Mathlib.Data.List.Forall2
import Reachability.Proofs.Ping.Strictness

namespace Reachability.Ping

/-! ## What statistics are made from -/

/-- A list is mapped if its members are, each to its value. -/
theorem mapM_eq_some_iff {α β : Type} {f : α → Option β} {as : List α} {bs : List β} :
    as.mapM f = some bs ↔ List.Forall₂ (fun a b => f a = some b) as bs := by
  induction as generalizing bs with
  | nil => cases bs <;> simp
  | cons a as ih =>
    rw [List.mapM_cons]
    cases ha : f a with
    | none => cases bs <;> simp [ha]
    | some b =>
      cases has : as.mapM f with
      | none => cases bs <;> simp [← ih, has]
      | some rest => cases bs <;> simp [← ih, has, ha]

/-- A measured reply has the value of its bytes, and its time exactly if that is exact. -/
theorem Reply.measurement?_eq_some_iff {r : Reply} {m : Measurement} :
    r.measurement? = some m ↔ count? r.bytes = some m.bytes ∧
      ((r.exact = true ∧ ∃ time, decimal? (withoutUnit r.time) = some time ∧ m.time = some time) ∨
        r.exact = false ∧ m.time = none) := by
  obtain ⟨bytes, time⟩ := m
  rw [measurement?]
  cases count? r.bytes with
  | none => simp
  | some n =>
    cases r.exact with
    | false => simp [eq_comm]
    | true =>
      cases decimal? (withoutUnit r.time) with
      | none => simp
      | some x => simp [eq_comm]

namespace Statistics

/-- The statistics that are put together from measured replies and the numbers of a summary. -/
def assembled (ms : List Measurement) (transmitted received : Int32) (loss : Binary64) :
    Statistics where
  valid := true
  packetsTransmitted := transmitted
  packetsReceived := received
  packetLoss := loss
  bytes := (ms.head?.map (·.bytes)).getD (-1)
  validTimes := Int32.ofNat ms.length
  averageTime := meanTime (ms.filterMap (·.time))

/-- Statistics are made from all replies and from the last summary. -/
theorem ofLines?_eq_some_iff {lines : List (List Char)} {st : Statistics} :
    ofLines? lines = some st ↔ ∃ ms s transmitted received loss,
      (replies lines).mapM Reply.measurement? = some ms ∧ summary? lines = some s ∧
      count? s.transmitted = some transmitted ∧ count? s.received = some received ∧
      decimal? s.loss = some loss ∧ st = assembled ms transmitted received loss := by
  simp only [ofLines?, Option.bind_eq_bind, Option.bind_eq_some_iff, Option.some.injEq]
  constructor
  · rintro ⟨ms, measured, s, last, transmitted, ht, received, hr, loss, hl, rfl⟩
    exact ⟨ms, s, transmitted, received, loss, measured, last, ht, hr, hl, rfl⟩
  · rintro ⟨ms, s, transmitted, received, loss, measured, last, ht, hr, hl, rfl⟩
    exact ⟨ms, measured, s, last, transmitted, ht, received, hr, loss, hl, rfl⟩

/-! ## What statistics have to be -/

/-- The summary is that of the last line with one. -/
def IsLastSummary (lines : List (List Char)) (s : Summary) : Prop :=
  ∃ before line after, lines = before ++ line :: after ∧ Summary.find? line = some s ∧
    ∀ l ∈ after, Summary.find? l = none

/-- The bytes of every reply line are well-formed, and its time if that is exact; there is a
summary line, and the numbers of the last one are well-formed. -/
structure IsWellFormed (lines : List (List Char)) : Prop where
  replies : ∀ line ∈ lines, ∀ r, Reply.find? line = some r →
    IsCount r.bytes ∧ (r.exact = true → IsDecimal (withoutUnit r.time))
  summary : ∃ s, IsLastSummary lines s ∧
    IsCount s.transmitted ∧ IsCount s.received ∧ IsDecimal s.loss

/-- The numbers of the last summary, the bytes of the first reply or -1 without one, the number of
replies, and the mean of the exact times over their own number, or zero without any. -/
structure AreOf (st : Statistics) (lines : List (List Char)) : Prop where
  summary : ∃ s, IsLastSummary lines s ∧
    st.packetsTransmitted.toInt = Decimal.value s.transmitted ∧
    st.packetsReceived.toInt = Decimal.value s.received ∧ decimal? s.loss = some st.packetLoss
  bytes : st.bytes.toInt =
    ((replies lines).head?.map fun r => (Decimal.value r.bytes : Int)).getD (-1)
  validTimes : st.validTimes.toInt = (replies lines).length
  averageTime : ∃ times, List.Forall₂ (fun r t => decimal? (withoutUnit r.time) = some t)
      ((replies lines).filter (·.exact)) times ∧
    st.averageTime = if times = [] then Binary64.zero false
      else times.foldl (· + ·) (Binary64.zero false) / Binary64.ofNat times.length

theorem summary?_eq_some_iff {lines : List (List Char)} {s : Summary} :
    summary? lines = some s ↔ IsLastSummary lines s := by
  rw [summary?, List.findSome?_eq_some_iff, IsLastSummary]
  constructor
  · rintro ⟨after, line, before, parts, found, none_after⟩
    refine ⟨before.reverse, line, after.reverse, ?_, found, fun l hl => ?_⟩
    · rw [← List.reverse_reverse lines, parts]
      simp
    · exact none_after l (List.mem_reverse.1 hl)
  · rintro ⟨before, line, after, rfl, found, none_after⟩
    exact ⟨after.reverse, line, before.reverse, by simp, found,
      fun l hl => none_after l (List.mem_reverse.1 hl)⟩

/-- Well-formed lines are those that are not rejected. -/
theorem isWellFormed_iff {lines : List (List Char)} : IsWellFormed lines ↔
    (∀ r ∈ replies lines, ¬r.IsRejected) ∧ ∃ s, summary? lines = some s ∧ ¬s.IsMalformed := by
  have accepted {r : Reply} : ¬r.IsRejected ↔
      IsCount r.bytes ∧ (r.exact = true → IsDecimal (withoutUnit r.time)) := by
    rw [Reply.IsRejected, not_or, not_and, Classical.not_not, Classical.not_not]
  have formed {s : Summary} : ¬s.IsMalformed ↔
      IsCount s.transmitted ∧ IsCount s.received ∧ IsDecimal s.loss := by
    rw [Summary.IsMalformed, not_or, not_or, Classical.not_not, Classical.not_not,
      Classical.not_not]
  simp only [accepted, formed, summary?_eq_some_iff, replies, List.mem_filterMap]
  constructor
  · rintro ⟨measured, last⟩
    refine ⟨?_, last⟩
    rintro r ⟨line, mem, found⟩
    exact measured line mem r found
  · rintro ⟨measured, last⟩
    exact ⟨fun line mem r found => measured r ⟨line, mem, found⟩, last⟩

/-- Exactly the well-formed lines have statistics. -/
theorem isSome_ofOutput?_iff_isWellFormed {output : String} :
    (ofOutput? output).isSome = true ↔ IsWellFormed (Text.lines output.toList) := by
  rw [isSome_ofOutput?_iff, Rejects, isWellFormed_iff, summary?_eq_getLast?]
  constructor
  · intro accepted
    rw [not_or, not_or, not_exists] at accepted
    obtain ⟨found, measured, last⟩ := accepted
    have lastFound := List.getLast?_eq_some_getLast found
    exact ⟨fun r hr rejected => measured r ⟨hr, rejected⟩, _, lastFound,
      fun malformed => last ⟨_, lastFound, malformed⟩⟩
  · rintro ⟨measured, s, last, formed⟩ (none_found | ⟨r, hr, rejected⟩ | ⟨s', last', malformed⟩)
    · rw [none_found] at last
      cases last
    · exact measured r hr rejected
    · obtain rfl := Option.some.inj (last.symm.trans last')
      exact formed malformed

/-- The times of measured replies are those of the exact ones. -/
theorem times_of_measured {rs : List Reply} {ms : List Measurement}
    (h : List.Forall₂ (fun r m => Reply.measurement? r = some m) rs ms) :
    List.Forall₂ (fun r t => decimal? (withoutUnit r.time) = some t) (rs.filter (·.exact))
      (ms.filterMap (·.time)) := by
  induction h with
  | nil => exact .nil
  | @cons r m rs ms measured _ ih =>
    obtain ⟨-, ⟨exact, time, read, known⟩ | ⟨inexact, unknown⟩⟩ :=
      Reply.measurement?_eq_some_iff.1 measured
    · rw [List.filter_cons_of_pos (by exact exact), List.filterMap_cons_some known]
      exact .cons read ih
    · rw [List.filter_cons_of_neg (by simp [inexact]), List.filterMap_cons_none unknown]
      exact ih

/-- Statistics say of their lines what is to be said, unless the replies are too many to count. -/
theorem areOf_of_ofLines? {lines : List (List Char)} {st : Statistics}
    (few : (replies lines).length ≤ maxCount) (h : ofLines? lines = some st) : st.AreOf lines := by
  obtain ⟨ms, s, transmitted, received, loss, measured, last, ht, hr, hl, rfl⟩ :=
    ofLines?_eq_some_iff.1 h
  have each := mapM_eq_some_iff.1 measured
  have length : ms.length = (replies lines).length := each.length_eq.symm
  refine ⟨⟨s, summary?_eq_some_iff.1 last, toInt_of_count? ht, toInt_of_count? hr, hl⟩, ?_, ?_,
    _, times_of_measured each, ?_⟩
  · show ((ms.head?.map (·.bytes)).getD (-1)).toInt = _
    generalize replies lines = rs at each
    cases each with
    | nil => rfl
    | cons first _ => exact toInt_of_count? (Reply.measurement?_eq_some_iff.1 first).1
  · show (Int32.ofNat ms.length).toInt = _
    rw [length]
    exact toInt_ofNat_of_le_maxCount few
  · show meanTime (ms.filterMap (·.time)) = _
    simp only [meanTime, List.isEmpty_iff]
    rfl

/-- Without replies there are no bytes, and only then. -/
theorem AreOf.bytes_eq_iff {st : Statistics} {lines : List (List Char)} (h : st.AreOf lines) :
    st.bytes = -1 ↔ st.validTimes = 0 := by
  rw [← Int32.toInt_inj, ← Int32.toInt_inj, h.bytes, h.validTimes]
  cases replies lines with
  | nil => exact iff_of_true rfl rfl
  | cons r rs =>
    have one : (-1 : Int32).toInt = -1 := by decide
    have zero : (0 : Int32).toInt = 0 := by decide
    rw [List.head?_cons, Option.map_some, Option.getD_some, List.length_cons, one, zero]
    omega

/-- Counts are not negative. -/
theorem AreOf.counts_nonneg {st : Statistics} {lines : List (List Char)} (h : st.AreOf lines) :
    0 ≤ st.packetsTransmitted ∧ 0 ≤ st.packetsReceived := by
  have nonneg {x : Int32} {n : Nat} (hx : x.toInt = n) : 0 ≤ x := by
    rw [Int32.le_iff_toInt_le, hx]
    exact Int.natCast_nonneg n
  obtain ⟨s, -, transmitted, received, -⟩ := h.summary
  exact ⟨nonneg transmitted, nonneg received⟩

theorem length_replies_le (lines : List (List Char)) : (replies lines).length ≤ lines.length :=
  List.length_filterMap_le _ _

end Statistics

/-! ## Readers -/

namespace Reader

/-- What can be asked of a reader. -/
inductive Call
  | read (output : String)
  | reset

/-- The reader after a call. -/
def call (reader : Reader) : Call → Reader
  | .read output => reader.read output
  | .reset => reader.reset

/-- The reader after some calls. -/
def calls (reader : Reader) (cs : List Call) : Reader := cs.foldl call reader

/-- A reader either knows statistics, or nothing. -/
def IsSettled (reader : Reader) : Prop :=
  reader.state = .valid ∧ reader.statistics.valid = true ∨
    (reader.state = .idle ∨ reader.state = .invalid) ∧ reader.statistics = .absent

theorem isSettled_call (reader : Reader) (c : Call) : (reader.call c).IsSettled := by
  cases c with
  | reset => exact Or.inr ⟨Or.inl rfl, rfl⟩
  | read output =>
    rw [call, read]
    cases h : Statistics.ofOutput? output with
    | none => exact Or.inr ⟨Or.inr rfl, rfl⟩
    | some st => exact Or.inl ⟨rfl, Statistics.valid_of_ofOutput? h⟩

/-- A call takes away all that was known. -/
theorem call_eq (reader : Reader) (c : Call) : reader.call c = new.call c := by
  cases c <;> rfl

theorem calls_concat (reader : Reader) (cs : List Call) (c : Call) :
    reader.calls (cs ++ [c]) = (reader.calls cs).call c :=
  List.foldl_concat ..

theorem state_read_iff (reader : Reader) (output : String) :
    (reader.read output).state = .valid ↔
      Statistics.IsWellFormed (Text.lines output.toList) := by
  rw [← Statistics.isSome_ofOutput?_iff_isWellFormed, read]
  cases Statistics.ofOutput? output <;> simp

/-- **What a reader knows.**  After any calls, a reader is as if its last call had been the only
one.  It knows statistics, or nothing at all.  After it has read an output, of no more lines than
can be counted, it knows statistics exactly if the lines are well-formed, and then they are those of
the lines: the counts are not negative, and the bytes are -1 exactly if there is no reply. -/
theorem known_after_calls (earlier : List Call) (last : Call)
    (few : ∀ output, last = .read output → (Text.lines output.toList).length ≤ maxCount) :
    let reader := new.calls (earlier ++ [last])
    reader = new.call last ∧ reader.IsSettled ∧ (reader.state = .idle ↔ last = .reset) ∧
    ∀ output, last = .read output →
      (reader.state = .valid ↔ Statistics.IsWellFormed (Text.lines output.toList)) ∧
      (reader.state = .valid → reader.statistics.AreOf (Text.lines output.toList) ∧
        (reader.statistics.bytes = -1 ↔ reader.statistics.validTimes = 0) ∧
        0 ≤ reader.statistics.packetsTransmitted ∧ 0 ≤ reader.statistics.packetsReceived) := by
  intro reader
  have alone : reader = new.call last := (calls_concat new earlier last).trans (call_eq _ last)
  rw [alone]
  refine ⟨rfl, isSettled_call new last, ?_, fun output read => ?_⟩
  · cases last with
    | reset => exact iff_of_true rfl rfl
    | read output =>
      rw [call, Reader.read]
      cases Statistics.ofOutput? output <;> simp
  · subst read
    refine ⟨state_read_iff new output, fun valid => ?_⟩
    rw [call, Reader.read] at valid ⊢
    cases h : Statistics.ofOutput? output with
    | none =>
      rw [h] at valid
      cases valid
    | some st =>
      have counted : (Statistics.replies (Text.lines output.toList)).length ≤ maxCount :=
        (Statistics.length_replies_le _).trans (few output rfl)
      have known := Statistics.areOf_of_ofLines? counted h
      exact ⟨known, known.bytes_eq_iff, known.counts_nonneg⟩

/-- A reset and a rejected output in front, and an output with two exact times among three. -/
theorem known_after_rejected_output :
    let output := "9 bytes from h: time=1.5\n8 bytes from h: time<1\n7 bytes from h: time=2.5\n" ++
      "4 packets transmitted, 3 received, 25% packet loss"
    let reader := new.calls ([.reset, .read "4 packets transmitted"] ++ [.read output])
    (Text.lines output.toList).length ≤ maxCount ∧ reader = new.read output ∧
      reader.statistics.AreOf (Text.lines output.toList) ∧
      reader = ⟨.valid,
        { valid := true
          packetsTransmitted := 4
          packetsReceived := 3
          packetLoss := Binary64.ofNat 25
          bytes := 9
          validTimes := 3
          averageTime := Binary64.ofNat 2 }⟩ := by
  intro output reader
  have few : (Text.lines output.toList).length ≤ maxCount := by decide +kernel
  obtain ⟨alone, -, -, known⟩ := known_after_calls [.reset, .read "4 packets transmitted"]
    (.read output) fun _ same => by
      obtain rfl := Call.read.inj same
      exact few
  have result : new.read output = ⟨.valid,
      { valid := true
        packetsTransmitted := 4
        packetsReceived := 3
        packetLoss := Binary64.ofNat 25
        bytes := 9
        validTimes := 3
        averageTime := Binary64.ofNat 2 }⟩ := by
    decide +kernel
  have valid : reader.state = .valid := (congrArg state alone).trans (congrArg state result)
  exact ⟨few, alone, ((known output rfl).2 valid).1, alone.trans result⟩

end Reader
end Reachability.Ping

/-
# Reading line by line

The statistics of an output depend only on the replies and summaries that its lines give, one line
at a time.  So lines that give neither may be put in or left out, and an output that is appended to
another adds its replies and brings its own last summary.  Nor does it matter how the lines end: the
readers of lines do not see blanks at either end of a line.

Main definitions:

* `IgnoresMargins` : readers that do not see blanks at the ends of a line;
* `Statistics.recognised` : the lines of an output that are replies or summaries.

Main results:

* `IgnoresMargins.filterMap_lines` : it does not matter whether line ends are taken away;
* `ofOutput?_congr` : what is found line by line determines the statistics;
* `read_line_by_line` : unrecognised lines, and outputs one behind the other.
-/
import Reachability.Proofs.Ping.Likeness
import Reachability.Proofs.Ping.Reading

namespace Reachability.Ping

/-! ## Margins -/

/-- A reader of lines that does not see blanks at either end, and finds nothing on empty lines. -/
structure IgnoresMargins {α : Type} (f : List Char → Option α) : Prop where
  nothing : f [] = none
  front : ∀ {bs}, IsBlankLine bs → ∀ line, f (bs ++ line) = f line
  back : ∀ {bs}, IsBlankLine bs → ∀ line, f (line ++ bs) = f line

theorem Reply.ignoresMargins : IgnoresMargins Reply.find? where
  nothing := rfl
  front := Reply.find?_blanks_append
  back := Reply.find?_append_blanks

theorem Summary.ignoresMargins : IgnoresMargins Summary.find? where
  nothing := rfl
  front := Summary.find?_blanks_append
  back := Summary.find?_append_blanks

/-- A line without its carriage return differs from it in blanks at the end. -/
theorem exists_eq_dropReturn_append (line : List Char) :
    ∃ bs, IsBlankLine bs ∧ line = Text.dropReturn line ++ bs := by
  rw [Text.dropReturn]
  split
  · next rest reversed =>
    refine ⟨['\r'], List.forall_mem_singleton.2 (by decide), ?_⟩
    rw [← List.reverse_reverse line, reversed, List.reverse_cons]
  · exact ⟨[], isBlankLine_nil, by simp⟩

namespace IgnoresMargins

variable {α : Type} {f : List Char → Option α} (hf : IgnoresMargins f)

include hf

theorem dropReturn (line : List Char) : f (Text.dropReturn line) = f line := by
  obtain ⟨bs, blank, parts⟩ := exists_eq_dropReturn_append line
  calc f (Text.dropReturn line) = f (Text.dropReturn line ++ bs) := (hf.back blank _).symm
    _ = f line := by rw [← parts]

/-- The pieces between the line feeds give what the lines give. -/
theorem filterMap_lines (cs : List Char) :
    (Text.lines cs).filterMap f = (Text.fields '\n' cs).filterMap f := by
  -- an empty last piece is no line, but nothing is found on it either
  have pieces := Text.fields_ne_nil '\n' cs
  have last : (if ((Text.fields '\n' cs).getLast pieces).isEmpty then []
      else [(Text.fields '\n' cs).getLast pieces]).filterMap f =
        [(Text.fields '\n' cs).getLast pieces].filterMap f := by
    split
    · next empty =>
      rw [List.isEmpty_iff.1 empty, List.filterMap_nil, List.filterMap_cons_none hf.nothing,
        List.filterMap_nil]
    · rfl
  have ends : f ∘ Text.dropReturn = f := funext hf.dropReturn
  rw [Text.lines, List.getLastD_eq_getLast?, List.getLast?_eq_some_getLast pieces,
    Option.getD_some, List.filterMap_append, List.filterMap_map, ends, last,
    ← List.filterMap_append, List.dropLast_append_getLast]

/-- A blank in front of a text changes nothing that is found. -/
theorem filterMap_fields_cons {c : Char} (blank : Text.isBlank c = true) (cs : List Char) :
    (Text.fields '\n' (c :: cs)).filterMap f = (Text.fields '\n' cs).filterMap f := by
  by_cases feed : c = '\n'
  · rw [Text.fields, if_pos feed, List.filterMap_cons_none hf.nothing]
  · obtain ⟨l, ls, before, after⟩ := Text.fields_cons_of_ne feed cs
    have same : f (c :: l) = f l := hf.front (List.forall_mem_singleton.2 blank) l
    rw [before, after, List.filterMap_cons, List.filterMap_cons, same]

/-- Nor does a blank at its end. -/
theorem filterMap_fields_concat {c : Char} (blank : Text.isBlank c = true) (cs : List Char) :
    (Text.fields '\n' (cs ++ [c])).filterMap f = (Text.fields '\n' cs).filterMap f := by
  by_cases feed : c = '\n'
  · rw [feed, Text.fields_append, List.filterMap_append]
    simp [Text.fields, hf.nothing]
  · obtain ⟨ls, l, before, after⟩ := Text.fields_concat_of_ne feed cs
    have same : f (l ++ [c]) = f l := hf.back (List.forall_mem_singleton.2 blank) l
    rw [before, after, List.filterMap_append, List.filterMap_append, List.filterMap_cons,
      List.filterMap_cons, same]

end IgnoresMargins

/-! ## What is found line by line -/

namespace Statistics

theorem ofLines?_congr {ls ms : List (List Char)}
    (replies : ls.filterMap Reply.find? = ms.filterMap Reply.find?)
    (summaries : ls.filterMap Summary.find? = ms.filterMap Summary.find?) :
    ofLines? ls = ofLines? ms := by
  have last : summary? ls = summary? ms := by
    rw [summary?_eq_getLast?, summary?_eq_getLast?, Statistics.summaries, Statistics.summaries,
      summaries]
  rw [ofLines?, ofLines?, Statistics.replies, Statistics.replies, replies, last]

/-- The statistics of an output are those of the pieces between its line feeds. -/
theorem ofOutput?_eq (output : String) :
    ofOutput? output = ofLines? (Text.fields '\n' output.toList) :=
  ofLines?_congr (Reply.ignoresMargins.filterMap_lines _) (Summary.ignoresMargins.filterMap_lines _)

/-- Outputs on whose lines the same is found have the same statistics. -/
theorem ofOutput?_congr {first second : String}
    (h : ∀ {α : Type} {f : List Char → Option α}, IgnoresMargins f →
      (Text.fields '\n' first.toList).filterMap f = (Text.fields '\n' second.toList).filterMap f) :
    ofOutput? first = ofOutput? second := by
  rw [ofOutput?_eq, ofOutput?_eq]
  exact ofLines?_congr (h Reply.ignoresMargins) (h Summary.ignoresMargins)

theorem ofOutput_congr {first second : String} (h : ofOutput? first = ofOutput? second) :
    ofOutput first = ofOutput second := congrArg (Option.getD · absent) h

/-! ## Lines put in and left out -/

/-- The lines of an output that are replies or summaries, in order and without line ends. -/
def recognised (output : String) : List (List Char) :=
  ((Text.fields '\n' output.toList).map Text.dropReturn).filter fun line =>
    (Reply.find? line).isSome || (Summary.find? line).isSome

/-- What is found on the recognised lines is all that is found. -/
theorem filterMap_recognised {α : Type} {f : List Char → Option α} (hf : IgnoresMargins f)
    (seen : ∀ line, (f line).isSome = true →
      ((Reply.find? line).isSome || (Summary.find? line).isSome) = true) (output : String) :
    (recognised output).filterMap f = (Text.fields '\n' output.toList).filterMap f := by
  have ends : f ∘ Text.dropReturn = f := funext hf.dropReturn
  have unseen (line : List Char) : (if ((Reply.find? line).isSome ||
      (Summary.find? line).isSome) = true then f line else none) = f line := by
    split
    · rfl
    · next h =>
      cases found : f line with
      | none => rfl
      | some x => exact absurd (seen line (by rw [found]; rfl)) h
  rw [recognised, List.filterMap_filter, funext unseen, List.filterMap_map, ends]

theorem ofOutput?_of_recognised {first second : String}
    (h : recognised first = recognised second) : ofOutput? first = ofOutput? second := by
  rw [ofOutput?_eq, ofOutput?_eq]
  refine ofLines?_congr ?_ ?_
  · have seen (line : List Char) (found : (Reply.find? line).isSome = true) :
        ((Reply.find? line).isSome || (Summary.find? line).isSome) = true := by
      rw [found, Bool.true_or]
    rw [← filterMap_recognised Reply.ignoresMargins seen, h,
      filterMap_recognised Reply.ignoresMargins seen]
  · have seen (line : List Char) (found : (Summary.find? line).isSome = true) :
        ((Reply.find? line).isSome || (Summary.find? line).isSome) = true := by
      rw [found, Bool.or_true]
    rw [← filterMap_recognised Summary.ignoresMargins seen, h,
      filterMap_recognised Summary.ignoresMargins seen]

/-- Lines on which nothing is found may be put in anywhere. -/
theorem ofOutput?_of_fields_inserted {longer shorter : String}
    {before inserted after : List (List Char)}
    (pieces : Text.fields '\n' longer.toList = before ++ inserted ++ after)
    (pieces' : Text.fields '\n' shorter.toList = before ++ after)
    (other : ∀ line ∈ inserted, Reply.find? line = none ∧ Summary.find? line = none) :
    ofOutput? longer = ofOutput? shorter := by
  have noReply : inserted.filterMap Reply.find? = [] :=
    List.filterMap_eq_nil_iff.2 fun line mem => (other line mem).1
  have noSummary : inserted.filterMap Summary.find? = [] :=
    List.filterMap_eq_nil_iff.2 fun line mem => (other line mem).2
  rw [ofOutput?_eq, ofOutput?_eq, pieces, pieces']
  refine ofLines?_congr ?_ ?_
  · rw [List.filterMap_append, List.filterMap_append, List.filterMap_append, noReply,
      List.append_nil]
  · rw [List.filterMap_append, List.filterMap_append, List.filterMap_append, noSummary,
      List.append_nil]

/-! ## Outputs one behind the other -/

theorem ofOutput_eq_of_valid {output : String} (h : (ofOutput output).valid = true) :
    ofOutput? output = some (ofOutput output) := by
  rw [ofOutput] at h ⊢
  cases found : ofOutput? output with
  | none =>
    rw [found] at h
    cases h
  | some st => rfl

/-- Lines behind others add their replies, and bring the last summary. -/
theorem ofLines?_append {ls ms : List (List Char)} {st st' : Statistics}
    (h : ofLines? ls = some st) (h' : ofLines? ms = some st') :
    ∃ xs t r l ys t' r' l', (replies ls).mapM Reply.measurement? = some xs ∧
      (replies ms).mapM Reply.measurement? = some ys ∧ st = assembled xs t r l ∧
      st' = assembled ys t' r' l' ∧ ofLines? (ls ++ ms) = some (assembled (xs ++ ys) t' r' l') := by
  obtain ⟨xs, s, t, r, l, measured, -, -, -, -, rfl⟩ := ofLines?_eq_some_iff.1 h
  obtain ⟨ys, s', t', r', l', measured', last', ht, hr, hl, rfl⟩ := ofLines?_eq_some_iff.1 h'
  refine ⟨xs, t, r, l, ys, t', r', l', measured, measured', rfl, rfl, ofLines?_eq_some_iff.2
    ⟨xs ++ ys, s', t', r', l', ?_, ?_, ht, hr, hl, rfl⟩⟩
  · rw [replies, List.filterMap_append, List.mapM_append, ← replies, ← replies, measured, measured']
    rfl
  · rw [summary?, List.reverse_append, List.findSome?_append, ← summary?, last']
    rfl

/-- The first reply has the bytes, in whichever part it is. -/
theorem bytes_assembled_append {rs : List Reply} {xs ys : List Measurement}
    (measured : rs.mapM Reply.measurement? = some xs) (t r t' r' : Int32) (l l' : Binary64) :
    (assembled (xs ++ ys) t' r' l').bytes =
      if (assembled xs t r l).bytes = -1 then (assembled ys t' r' l').bytes
      else (assembled xs t r l).bytes := by
  have each := mapM_eq_some_iff.1 measured
  cases each with
  | nil => rfl
  | @cons reply m rs xs first _ =>
    have value := toInt_of_count? (Reply.measurement?_eq_some_iff.1 first).1
    have known : (assembled (m :: xs) t r l).bytes ≠ -1 := by
      show m.bytes ≠ -1
      intro minus
      rw [minus] at value
      have negative : (-1 : Int32).toInt = -1 := by decide
      omega
    rw [if_neg known]
    rfl

theorem toInt_validTimes_assembled {xs : List Measurement} {n : Nat} (length : xs.length = n)
    (few : n ≤ maxCount) (t r : Int32) (l : Binary64) :
    (assembled xs t r l).validTimes.toInt = n := by
  subst length
  exact toInt_ofNat_of_le_maxCount few

/-- The pieces between line feeds have the replies of the lines. -/
theorem replies_fields (cs : List Char) :
    replies (Text.fields '\n' cs) = replies (Text.lines cs) :=
  (Reply.ignoresMargins.filterMap_lines cs).symm

/-- **Line by line.**  Outputs with the same recognised lines have the same statistics; so lines
that are neither replies nor summaries may be put in or left out anywhere.  Two outputs with
statistics, one behind the other with a line feed between them and of no more lines than can be
counted, have the replies of both, the bytes of the first unless it has no reply, and the summary of
the second. -/
theorem read_line_by_line :
    (∀ first second : String, recognised first = recognised second →
      ofOutput first = ofOutput second) ∧
    (∀ (longer shorter : String) (before inserted after : List (List Char)),
      Text.fields '\n' longer.toList = before ++ inserted ++ after →
      Text.fields '\n' shorter.toList = before ++ after →
      (∀ line ∈ inserted, Reply.find? line = none ∧ Summary.find? line = none) →
      ofOutput longer = ofOutput shorter) ∧
    ∀ first second : String, (ofOutput first).valid = true → (ofOutput second).valid = true →
      (Text.lines first.toList).length + (Text.lines second.toList).length ≤ maxCount →
      let both := ofOutput (first ++ "\n" ++ second)
      both.valid = true ∧
      both.validTimes.toInt =
        (ofOutput first).validTimes.toInt + (ofOutput second).validTimes.toInt ∧
      both.bytes = (if (ofOutput first).bytes = -1 then (ofOutput second).bytes
        else (ofOutput first).bytes) ∧
      both.packetsTransmitted = (ofOutput second).packetsTransmitted ∧
      both.packetsReceived = (ofOutput second).packetsReceived ∧
      both.packetLoss = (ofOutput second).packetLoss := by
  refine ⟨fun first second h => ofOutput_congr (ofOutput?_of_recognised h),
    fun longer shorter before inserted after pieces pieces' other =>
      ofOutput_congr (ofOutput?_of_fields_inserted pieces pieces' other),
    fun first second valid valid' few => ?_⟩
  intro both
  have known := ofOutput_eq_of_valid valid
  have known' := ofOutput_eq_of_valid valid'
  rw [ofOutput?_eq] at known known'
  obtain ⟨xs, t, r, l, ys, t', r', l', measured, measured', parts, parts', found⟩ :=
    ofLines?_append known known'
  have pieces : Text.fields '\n' (first ++ "\n" ++ second).toList =
      Text.fields '\n' first.toList ++ Text.fields '\n' second.toList := by
    rw [← Text.fields_append]
    simp
  have whole : both = assembled (xs ++ ys) t' r' l' := by
    show (ofOutput? (first ++ "\n" ++ second)).getD absent = _
    rw [ofOutput?_eq, pieces, found, Option.getD_some]
  have counted : xs.length ≤ (Text.lines first.toList).length := by
    rw [← (mapM_eq_some_iff.1 measured).length_eq, replies_fields]
    exact length_replies_le _
  have counted' : ys.length ≤ (Text.lines second.toList).length := by
    rw [← (mapM_eq_some_iff.1 measured').length_eq, replies_fields]
    exact length_replies_le _
  rw [whole, parts, parts']
  refine ⟨rfl, ?_, bytes_assembled_append measured .., rfl, rfl, rfl⟩
  rw [toInt_validTimes_assembled (n := xs.length + ys.length) List.length_append (by omega),
    toInt_validTimes_assembled rfl (by omega), toInt_validTimes_assembled rfl (by omega)]
  exact Int.natCast_add _ _

/-- Two lines put in, and an output behind one that ends in a carriage return. -/
theorem read_line_by_line_at_seam :
    let first := "7 bytes from h: time=1\n1 packets transmitted, 1 received, 0% packet loss\r"
    let spread := "7 bytes from h: time=1\ntimed out\n\n" ++
      "1 packets transmitted, 1 received, 0% packet loss\r"
    let second := "8 bytes from h: time<1\n2 packets transmitted, 1 received, 50% packet loss"
    let both := ofOutput (first ++ "\n" ++ second)
    recognised spread = recognised (first ++ "\n") ∧
      ofOutput spread = ofOutput (first ++ "\n") ∧ ofOutput spread = ofOutput first ∧
      (ofOutput first).valid = true ∧ (ofOutput second).valid = true ∧
      both.validTimes.toInt = 2 ∧ both.bytes = 7 ∧ both.packetsTransmitted = 2 := by
  intro first spread second both
  obtain ⟨congruent, insert, append⟩ := read_line_by_line
  have same : recognised spread = recognised (first ++ "\n") := by decide +kernel
  have inserted := insert spread first ["7 bytes from h: time=1".toList]
    ["timed out".toList, []] ["1 packets transmitted, 1 received, 0% packet loss\r".toList]
    (by decide +kernel) (by decide +kernel) (by decide +kernel)
  have known : ofOutput first = ⟨true, 1, 1, Binary64.zero false, 7, 1, Binary64.ofNat 1⟩ := by
    decide +kernel
  have known' : ofOutput second = ⟨true, 2, 1, Binary64.ofNat 50, 8, 1, Binary64.zero false⟩ := by
    decide +kernel
  have few :
      (Text.lines first.toList).length + (Text.lines second.toList).length ≤ maxCount := by
    decide +kernel
  obtain ⟨-, times, bytes, transmitted, -⟩ :=
    append first second (by rw [known]) (by rw [known']) few
  rw [known, known'] at times bytes
  rw [known'] at transmitted
  exact ⟨same, congruent _ _ same, inserted, by rw [known], by rw [known'], times.trans (by decide),
    bytes.trans (by decide), transmitted⟩

end Statistics
end Reachability.Ping

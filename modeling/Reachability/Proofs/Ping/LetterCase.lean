/-
# Letter case in output

Fixed words are recognised in either letter case, and numbers have no letters.  But the unit that
follows an exact time without a blank is only taken away in small letters; in other letters it stays
with the number and makes it malformed.  So two outputs that differ in the case of letters only have
the same statistics unless that comes between them.

Main definitions:

* `Reply.lowered`, `Summary.lowered` : replies and summaries with their texts in small letters;
* `Reply.HasLoudUnit` : an exact time whose unit has a capital;
* `Statistics.IsLoud` : an output with such a reply.

Main results:

* `Reply.find?_lowered`, `Summary.find?_lowered` : what is found on a line in small letters;
* `rejects_of_isLoud`, `ofOutput?_of_not_isLoud` : a loud output is rejected, any other has the
  statistics of small letters;
* `case_ignored_iff` : when letter case does not matter;
* `rejected_for_loud_unit` : an output that is rejected for its letter case.
-/
import Reachability.Proofs.Ping.Lines

namespace Reachability.Ping

/-! ## Small letters -/

/-- What does not tell capitals from their small letters does not see letter case. -/
theorem eq_toLower_of_capitals {α : Type} {f : Char → α}
    (capitals : ∀ n < 91, 65 ≤ (Char.ofNat n).toNat → f (Char.ofNat n) = f (Char.ofNat n).toLower)
    (c : Char) : f c = f c.toLower := by
  rcases toLower_cases c with same | ⟨low, high, -⟩
  · rw [same]
  · exact forall_of_toNat_lt (p := fun c => 65 ≤ c.toNat → f c = f c.toLower) capitals
      (by omega) low

/-- Small letters read like capitals. -/
theorem isLikeness_toLower : IsLikeness fun c d => d = c.toLower where
  blank := by
    rintro c _ rfl
    exact eq_toLower_of_capitals (f := Text.isBlank) (by decide +kernel) c
  word := by
    rintro c _ rfl
    exact eq_toLower_of_capitals (f := Text.isWordCharacter) (by decide +kernel) c
  fold := by
    rintro c _ rfl
    exact eq_toLower_of_capitals (f := foldCase) (by decide +kernel) c

theorem forall₂_toLower_iff {cs ds : List Char} :
    List.Forall₂ (fun c d => d = c.toLower) cs ds ↔ ds = cs.map Char.toLower := by
  induction cs generalizing ds with
  | nil => simp
  | cons c cs ih => cases ds <;> simp [ih]

theorem alike_map_toLower (cs : List Char) :
    Alike (fun c d => d = c.toLower) cs (cs.map Char.toLower) := by
  induction cs with
  | nil => exact .blanks isBlankLine_nil isBlankLine_nil
  | cons c cs ih => exact .cons rfl ih

/-! ## What is found on lines in small letters -/

/-- The reply with its texts in small letters. -/
def Reply.lowered (r : Reply) : Reply :=
  ⟨r.bytes.map Char.toLower, r.exact, r.time.map Char.toLower⟩

/-- The summary with its texts in small letters. -/
def Summary.lowered (s : Summary) : Summary :=
  ⟨s.transmitted.map Char.toLower, s.received.map Char.toLower, s.loss.map Char.toLower⟩

theorem eq_map_of_rel {α : Type} {r : α → α → Prop} {f : α → α} {a b : Option α}
    (h : Option.Rel r a b) (hr : ∀ x y, r x y → y = f x) : b = a.map f := by
  cases h with
  | none => rfl
  | some hxy => rw [hr _ _ hxy, Option.map_some]

theorem Reply.find?_lowered (line : List Char) :
    Reply.find? (line.map Char.toLower) = (Reply.find? line).map Reply.lowered := by
  refine eq_map_of_rel (Reply.find?_alike isLikeness_toLower (alike_map_toLower line)) ?_
  rintro ⟨bytes, exact, time⟩ ⟨bytes', exact', time'⟩ ⟨hb, rfl, ht⟩
  obtain rfl := forall₂_toLower_iff.1 hb
  obtain rfl := forall₂_toLower_iff.1 ht
  rfl

theorem Summary.find?_lowered (line : List Char) :
    Summary.find? (line.map Char.toLower) = (Summary.find? line).map Summary.lowered := by
  refine eq_map_of_rel (Summary.find?_alike isLikeness_toLower (alike_map_toLower line)) ?_
  rintro ⟨transmitted, received, loss⟩ ⟨transmitted', received', loss'⟩ ⟨ht, hr, hl⟩
  obtain rfl := forall₂_toLower_iff.1 ht
  obtain rfl := forall₂_toLower_iff.1 hr
  obtain rfl := forall₂_toLower_iff.1 hl
  rfl

/-! ## Numbers -/

/-- Where there are small letters there were letters. -/
theorem toNat_lt_of_toLower {c : Char} (h : c.toLower.toNat < 65) : c.toNat < 65 := by
  rcases toLower_cases c with same | ⟨low, -, small⟩
  · rwa [same] at h
  · omega

/-- A reader that accepts no letters does not see letter case. -/
theorem map_toLower_of_noLetters {α : Type} {f : List Char → Option α}
    (noLetters : ∀ token, (f token).isSome = true → ∀ c ∈ token, c.toNat < 65)
    (token : List Char) : f (token.map Char.toLower) = f token := by
  by_cases low : ∀ c ∈ token, c.toNat < 65
  · have kept : ∀ c ∈ token, c.toLower = c := by
      intro c hc
      rcases toLower_cases c with same | ⟨high, -⟩
      · exact same
      · exact absurd (low c hc) (by omega)
    have same : token.map Char.toLower = token :=
      (List.map_congr_left kept).trans (List.map_id' token)
    rw [same]
  · -- a letter keeps both texts from being read
    have rejected : ¬(f token).isSome = true := fun read => low (noLetters token read)
    have rejected' : ¬(f (token.map Char.toLower)).isSome = true := fun read =>
      low fun c hc => toNat_lt_of_toLower (noLetters _ read _ (List.mem_map_of_mem hc))
    rw [Option.not_isSome_iff_eq_none.1 rejected, Option.not_isSome_iff_eq_none.1 rejected']

theorem IsNumeral.toNat_lt {digits : List Char} (h : IsNumeral digits) :
    ∀ c ∈ digits, c.toNat < 65 := by
  intro c hc
  have high : c.toNat ≤ 57 := UInt32.le_iff_toNat_le.1 (h.2 c hc).2
  omega

theorem count?_lowered (token : List Char) : count? (token.map Char.toLower) = count? token :=
  map_toLower_of_noLetters (fun _ read => (isSome_count?_iff.1 read).1.toNat_lt) token

theorem IsDecimal.toNat_lt {token : List Char} (h : IsDecimal token) :
    ∀ c ∈ token, c.toNat < 65 := by
  obtain ⟨whole, fraction, numeral, ⟨rfl, -⟩ | ⟨rfl, numeral'⟩, -⟩ := h
  · exact numeral.toNat_lt
  · rw [List.forall_mem_append, List.forall_mem_cons]
    exact ⟨numeral.toNat_lt, by decide, numeral'.toNat_lt⟩

theorem decimal?_lowered (token : List Char) : decimal? (token.map Char.toLower) = decimal? token :=
  map_toLower_of_noLetters (fun _ read => (isSome_decimal?_iff.1 read).toNat_lt) token

/-! ## Units -/

/-- An exact time with its unit, but not in small letters. -/
def Reply.HasLoudUnit (r : Reply) : Prop :=
  r.exact = true ∧ ∃ number unit, r.time = number ++ unit ∧
    unit.map Char.toLower = "ms".toList ∧ unit ≠ "ms".toList

/-- A unit that is not in small letters is not taken away. -/
theorem withoutUnit_of_loud {number unit : List Char} (small : unit.map Char.toLower = "ms".toList)
    (loud : unit ≠ "ms".toList) : withoutUnit (number ++ unit) = number ++ unit := by
  refine withoutUnit_eq_self fun number' same => loud ?_
  have length : unit.length = 2 := by rw [← List.length_map (f := Char.toLower), small]; rfl
  exact (List.append_inj' same length).2

/-- A unit is loud if it is taken away in small letters only. -/
theorem Reply.hasLoudUnit_iff {r : Reply} : r.HasLoudUnit ↔ r.exact = true ∧
    withoutUnit r.time = r.time ∧
      withoutUnit (r.time.map Char.toLower) ≠ r.time.map Char.toLower := by
  have shorter (number : List Char) : number ≠ number ++ "ms".toList := fun same => by
    have length := congrArg List.length same
    rw [List.length_append] at length
    exact absurd length (by simp)
  -- the unit is the end of the text that is there in small letters
  rw [HasLoudUnit]
  refine and_congr_right fun _ => ⟨?_, ?_⟩
  · rintro ⟨number, unit, time, small, loud⟩
    rw [time, List.map_append, small, withoutUnit_append]
    exact ⟨withoutUnit_of_loud small loud, shorter _⟩
  · rintro ⟨kept, taken⟩
    obtain ⟨number, same⟩ : ∃ number, r.time.map Char.toLower = number ++ "ms".toList := by
      by_contra none_small
      exact taken (withoutUnit_eq_self (not_exists.1 none_small))
    obtain ⟨front, back, time, -, small⟩ := List.map_eq_append_iff.1 same
    refine ⟨front, back, time, small, fun quiet => ?_⟩
    rw [time, quiet, withoutUnit_append] at kept
    exact shorter front kept

instance (r : Reply) : Decidable r.HasLoudUnit := decidable_of_iff _ Reply.hasLoudUnit_iff.symm

/-- The reply is not measured then. -/
theorem Reply.measurement?_of_loud {r : Reply} (h : r.HasLoudUnit) : r.measurement? = none := by
  obtain ⟨exact, number, unit, time, small, loud⟩ := h
  rw [← Option.not_isSome_iff_eq_none, Reply.isSome_measurement?_iff, Classical.not_not]
  refine Or.inr ⟨exact, fun decimal => ?_⟩
  rw [time, withoutUnit_of_loud small loud] at decimal
  have letters := (List.forall_mem_append.1 decimal.toNat_lt).2
  obtain ⟨c, hc, letter⟩ : ∃ c ∈ unit, c.toLower = 'm' :=
    List.mem_map.1 (by rw [small]; decide)
  rcases toLower_cases c with same | ⟨low, -⟩
  · have high := letters c hc
    rw [← same, letter] at high
    exact absurd high (by decide)
  · exact absurd (letters c hc) (by omega)

/-- Any other exact time is the same number in small letters. -/
theorem decimal?_withoutUnit_lowered {time : List Char}
    (quiet : ∀ number unit, time = number ++ unit → unit.map Char.toLower = "ms".toList →
      unit = "ms".toList) :
    decimal? (withoutUnit (time.map Char.toLower)) = decimal? (withoutUnit time) := by
  by_cases unit : ∃ number, time = number ++ "ms".toList
  · obtain ⟨number, rfl⟩ := unit
    have small : "ms".toList.map Char.toLower = "ms".toList := by decide
    rw [List.map_append, small, withoutUnit_append, withoutUnit_append, decimal?_lowered]
  · have none_small : ∀ number, time.map Char.toLower ≠ number ++ "ms".toList := by
      intro number same
      obtain ⟨front, back, rfl, -, small⟩ := List.map_eq_append_iff.1 same
      exact unit ⟨front, by rw [quiet front back rfl small]⟩
    rw [withoutUnit_eq_self (not_exists.1 unit), withoutUnit_eq_self none_small, decimal?_lowered]

theorem Reply.measurement?_lowered {r : Reply} (h : ¬r.HasLoudUnit) :
    r.lowered.measurement? = r.measurement? := by
  rw [measurement?, measurement?, lowered, count?_lowered]
  cases exact : r.exact with
  | false => rfl
  | true =>
    have quiet : ∀ number unit, r.time = number ++ unit → unit.map Char.toLower = "ms".toList →
        unit = "ms".toList := fun number unit time small => by
      by_contra loud
      exact h ⟨exact, number, unit, time, small, loud⟩
    rw [decimal?_withoutUnit_lowered quiet]

namespace Statistics

/-! ## Outputs in small letters -/

/-- An output with an exact time whose unit is not in small letters. -/
def IsLoud (output : String) : Prop :=
  ∃ r ∈ replies (Text.lines output.toList), r.HasLoudUnit

theorem replies_lowered (lines : List (List Char)) :
    replies (lines.map (List.map Char.toLower)) = (replies lines).map Reply.lowered := by
  rw [replies, replies, List.filterMap_map, List.map_filterMap]
  exact congrArg (List.filterMap · lines) (funext Reply.find?_lowered)

theorem summary?_lowered (lines : List (List Char)) :
    summary? (lines.map (List.map Char.toLower)) = (summary? lines).map Summary.lowered := by
  rw [summary?_eq_getLast?, summary?_eq_getLast?, ← List.getLast?_map, summaries, summaries,
    List.filterMap_map, List.map_filterMap]
  exact congrArg (fun f => (List.filterMap f lines).getLast?) (funext Summary.find?_lowered)

theorem mapM_measurement?_lowered {rs : List Reply} (quiet : ∀ r ∈ rs, ¬r.HasLoudUnit) :
    (rs.map Reply.lowered).mapM Reply.measurement? = rs.mapM Reply.measurement? := by
  induction rs with
  | nil => rfl
  | cons r rs ih =>
    rw [List.forall_mem_cons] at quiet
    rw [List.map_cons, List.mapM_cons, List.mapM_cons, Reply.measurement?_lowered quiet.1,
      ih quiet.2]

/-- Lines have the statistics of small letters if no unit is loud. -/
theorem ofLines?_lowered {lines : List (List Char)}
    (quiet : ∀ r ∈ replies lines, ¬r.HasLoudUnit) :
    ofLines? (lines.map (List.map Char.toLower)) = ofLines? lines := by
  rw [ofLines?, ofLines?, replies_lowered, mapM_measurement?_lowered quiet, summary?_lowered]
  cases (replies lines).mapM Reply.measurement? with
  | none => rfl
  | some ms =>
    cases summary? lines with
    | none => rfl
    | some s =>
      simp only [Option.map_some, Option.bind_eq_bind, Option.bind_some, Summary.lowered,
        count?_lowered, decimal?_lowered]

/-- No other character turns into a line feed in small letters. -/
theorem toLower_eq_feed_iff (c : Char) : c.toLower = '\n' ↔ c = '\n' := by
  rcases toLower_cases c with same | ⟨low, -, small⟩
  · rw [same]
  · refine iff_of_false ?_ ?_
    · intro h
      have feed : '\n'.toNat = 10 := rfl
      rw [h, feed] at small
      omega
    · rintro rfl
      exact absurd low (by decide)

theorem ofOutput?_of_not_isLoud {output : String} (quiet : ¬IsLoud output) :
    ofOutput? output = ofOutput? (Text.lowerAscii output) := by
  rw [ofOutput?_eq, ofOutput?_eq, Text.lowerAscii, String.toList_ofList,
    Text.fields_map toLower_eq_feed_iff, ofLines?_lowered]
  intro r hr loud
  rw [replies_fields] at hr
  exact quiet ⟨r, hr, loud⟩

theorem rejects_of_isLoud {output : String} (loud : IsLoud output) : Rejects output := by
  obtain ⟨r, hr, unit⟩ := loud
  refine Or.inr (Or.inl ⟨r, hr, ?_⟩)
  have unmeasured := Reply.measurement?_of_loud unit
  rw [← Option.not_isSome_iff_eq_none, Reply.isSome_measurement?_iff,
    Classical.not_not] at unmeasured
  exact unmeasured

/-- Rejected outputs have the fixed values, and no others do. -/
theorem ofOutput_eq_absent_iff {output : String} :
    ofOutput output = absent ↔ Rejects output := by
  rw [← not_iff_not (b := Rejects output), ← isSome_ofOutput?_iff, ofOutput]
  cases found : ofOutput? output with
  | none => simp
  | some st =>
    have valid := valid_of_ofOutput? found
    refine iff_of_true ?_ rfl
    rintro same
    rw [Option.getD_some] at same
    rw [same] at valid
    cases valid

/-- **Letter case.**  A loud output is rejected; any other has the statistics that it has in small
letters.  So two outputs that differ in the case of letters only have the same statistics exactly
if both are loud, or none of them is, or in small letters they are rejected anyway. -/
theorem case_ignored_iff (first second : String)
    (same : Text.lowerAscii first = Text.lowerAscii second) :
    (IsLoud first → ofOutput first = absent) ∧
    (¬IsLoud first → ofOutput first = ofOutput (Text.lowerAscii first)) ∧
    (ofOutput first = ofOutput second ↔
      (IsLoud first ↔ IsLoud second) ∨ Rejects (Text.lowerAscii first)) := by
  have loud {output : String} (h : IsLoud output) : ofOutput output = absent :=
    ofOutput_eq_absent_iff.2 (rejects_of_isLoud h)
  have quiet {output : String} (h : ¬IsLoud output) :
      ofOutput output = ofOutput (Text.lowerAscii output) :=
    ofOutput_congr (ofOutput?_of_not_isLoud h)
  refine ⟨loud, quiet, ?_⟩
  rw [← ofOutput_eq_absent_iff]
  by_cases h : IsLoud first <;> by_cases h' : IsLoud second
  · simp [loud h, loud h', h, h']
  · rw [loud h, quiet h', ← same]
    simp [h, h', eq_comm]
  · rw [quiet h, loud h', same]
    simp [h, h']
  · rw [quiet h, quiet h', same]
    simp [h, h']

instance (output : String) : Decidable (IsLoud output) :=
  inferInstanceAs (Decidable (∃ r ∈ replies (Text.lines output.toList), r.HasLoudUnit))

/-- Capitals in all places but the units. -/
theorem case_ignored_beside_units :
    let first := "7 BYTES from h: TIME=1\nReply: Bytes=8 time=2ms\n" ++
      "1 Packets Transmitted, 1 Received, 0% Packet Loss"
    let second := "7 bytes FROM H: time=1\nreply: BYTES=8 Time=2ms\n" ++
      "1 packets transmitted, 1 received, 0% packet loss"
    Text.lowerAscii first = Text.lowerAscii second ∧ ¬IsLoud first ∧ ¬IsLoud second ∧
      ofOutput first = ofOutput second ∧ (ofOutput second).validTimes.toInt = 2 := by
  intro first second
  have same : Text.lowerAscii first = Text.lowerAscii second :=
    congrArg String.ofList (by decide +kernel)
  have quiet : ¬IsLoud first := by decide +kernel
  have quiet' : ¬IsLoud second := by decide +kernel
  obtain ⟨-, -, iff⟩ := case_ignored_iff first second same
  exact ⟨same, quiet, quiet', iff.2 (Or.inl (iff_of_false quiet quiet')), by decide +kernel⟩

/-- A valid output and a rejected one have different statistics. -/
theorem ofOutput_ne_of_valid {output output' : String} (valid : (ofOutput output).valid = true)
    (rejected : ofOutput output' = absent) : ofOutput output ≠ ofOutput output' := by
  intro equal
  rw [equal, rejected] at valid
  cases valid

/-- A unit in capitals is the only difference, and the output is rejected for it. -/
theorem rejected_for_loud_unit :
    let small := "Reply: bytes=8 time=2ms\n1 packets transmitted, 1 received, 0% packet loss"
    let loud := "Reply: bytes=8 time=2MS\n1 packets transmitted, 1 received, 0% packet loss"
    Text.lowerAscii small = Text.lowerAscii loud ∧ (ofOutput small).valid = true ∧
      ofOutput loud = absent ∧ ofOutput small ≠ ofOutput loud := by
  intro small loud
  have same : Text.lowerAscii small = Text.lowerAscii loud :=
    congrArg String.ofList (by decide +kernel)
  have valid : (ofOutput small).valid = true := by decide +kernel
  have rejected : ofOutput loud = absent := by decide +kernel
  exact ⟨same, valid, rejected, ofOutput_ne_of_valid valid rejected⟩

end Statistics
end Reachability.Ping

/-
# Spans of a clock

A clock is read before and after each attempt of a probe.  Here its readings are numbered, and the
spans between them are bounded: the calendar has a first and a last instant, so that no span is
longer than `longestSpan`, whichever way the clock runs.

Main definitions:

* `Instant.InCalendar` : the instants that the calendar has;
* `Clock.after`, `Clock.reading` : a clock that was read some times, and its readings by number;
* `Clock.span` : the spans between its readings, two by two;
* `Clock.InCalendar` : a clock that shows instants of the calendar only.

Main results:

* `total_elapsed`, `total_elapsed_lt` : the time between two instants, clamped and bounded;
* `Clock.total_span_lt` : hence the spans of a clock;
* `Clock.inCalendar_ofOffsets` : shifting an instant of the calendar does not leave it.
-/
import Reachability.Time.Clock

namespace Reachability

/-! ## The calendar -/

namespace Instant

/-- The calendar has the instant; its second may be a leap second. -/
structure InCalendar (t : Instant) : Prop where
  first : firstSecond ≤ t.secs
  last : t.secs ≤ lastSecond
  nanos : t.nanos < 2 * nanosPerSecond

theorem inCalendar_of_ofUnix? {secs : Int} {nanos : Nat} {t : Instant}
    (h : ofUnix? secs nanos = some t) : t.InCalendar := by
  unfold ofUnix? at h
  split at h
  case isFalse => cases h
  case isTrue inside =>
    obtain rfl := Option.some.inj h
    refine ⟨inside.1, inside.2.1, ?_⟩
    have below := inside.2.2
    show nanos < 2 * nanosPerSecond
    unfold nanosPerSecond at *
    omega

theorem inCalendar_default : (default : Instant).InCalendar where
  first := by decide
  last := by decide
  nanos := by decide

/-- An instant that is shifted stays in the calendar, or the shift fails. -/
theorem inCalendar_addMillis {t t' : Instant} {ms : Int} (ht : t.InCalendar)
    (h : t.addMillis ms = .ok t') : t'.InCalendar := by
  -- but for shifts within a leap second the seconds are checked behind the carry
  have carried {secs nanos : Int}
      (h : (if firstSecond ≤ secs ∧ secs ≤ lastSecond then
        Except.ok ⟨secs, (nanos.fmod nanosPerSecond).toNat⟩
        else .error .instantOverflow : Except Fault Instant) = .ok t') : t'.InCalendar := by
    split at h
    case isFalse => cases h
    case isTrue inside =>
      obtain rfl := Except.ok.inj h
      refine ⟨inside.1, inside.2, ?_⟩
      have below : nanos.fmod nanosPerSecond < nanosPerSecond :=
        Int.fmod_lt_of_pos nanos (by decide)
      show (nanos.fmod nanosPerSecond).toNat < 2 * nanosPerSecond
      unfold nanosPerSecond at *
      omega
  unfold addMillis at h
  dsimp only at h
  split at h
  case isFalse => exact carried h
  case isTrue leap =>
    split at h
    case isTrue => exact carried h
    case isFalse forward =>
      split at h
      case isTrue => exact carried h
      case isFalse backward =>
        -- the shift stays within the leap second
        obtain rfl := Except.ok.inj h
        have nanos := ht.nanos
        refine ⟨ht.first, ht.last, ?_⟩
        show ((t.nanos : Int) + Int.tmod ms 1000 * 1000000).toNat < 2 * nanosPerSecond
        unfold nanosPerSecond at *
        omega

/-! ## Spans -/

/-- The nanoseconds that no two instants of the calendar are apart. -/
def longestSpan : Nat := (lastSecond - firstSecond + 3).toNat * nanosPerSecond

theorem nanosBetween_lt {start finish : Instant} (hs : start.InCalendar)
    (hf : finish.InCalendar) : nanosBetween start finish < longestSpan := by
  -- a leap second on one side makes the difference longer by at most one second
  have shift : ∃ leap : Int, leap ≤ 1 ∧ nanosBetween start finish =
      (finish.secs - start.secs + leap) * nanosPerSecond + (finish.nanos - start.nanos) := by
    refine ⟨_, ?_, rfl⟩
    split
    · split <;> decide
    · split
      · split <;> decide
      · decide
  obtain ⟨leap, small, between⟩ := shift
  have first := hs.first
  have last := hf.last
  have nanos := hf.nanos
  rw [between]
  unfold longestSpan firstSecond lastSecond nanosPerSecond at *
  omega

/-- The time between two instants is exact, and nothing if the clock went backwards. -/
theorem total_elapsed {start finish : Instant} (hs : start.InCalendar) (hf : finish.InCalendar) :
    (elapsed start finish).total = (nanosBetween start finish).toNat := by
  have bound := nanosBetween_lt hs hf
  show min (nanosBetween start finish).toNat (Duration.limit - 1) = _
  have room : longestSpan < Duration.limit := by decide
  omega

theorem total_elapsed_lt {start finish : Instant} (hs : start.InCalendar)
    (hf : finish.InCalendar) : (elapsed start finish).total < longestSpan := by
  have bound := nanosBetween_lt hs hf
  have pos : 0 < longestSpan := by decide
  rw [total_elapsed hs hf]
  omega

end Instant

/-! ## Readings -/

namespace Clock

/-- The clock after so many readings. -/
def after (c : Clock) : Nat → Clock
  | 0 => c
  | n + 1 => (c.after n).now.2

/-- What the clock shows when it was read so many times before. -/
def reading (c : Clock) (n : Nat) : Instant := (c.after n).now.1

/-- The span between the readings before and behind an attempt, when so many attempts were timed
before. -/
def span (c : Clock) (n : Nat) : Duration :=
  Instant.elapsed (c.reading (2 * n)) (c.reading (2 * n + 1))

theorem after_after (c : Clock) (m n : Nat) : (c.after m).after n = c.after (m + n) := by
  induction n with
  | zero => rfl
  | succ n ih => rw [after, ih, ← Nat.add_assoc, after]

theorem reading_after (c : Clock) (m n : Nat) : (c.after m).reading n = c.reading (m + n) := by
  rw [reading, after_after, reading]

/-- The spans behind an attempt are those of the clock after its two readings. -/
theorem span_after (c : Clock) (n : Nat) : (c.after 2).span n = c.span (n + 1) := by
  rw [span, span, reading_after, reading_after]
  congr 2 <;> omega

/-- The clock shows only instants of the calendar. -/
def InCalendar (c : Clock) : Prop := ∀ t ∈ c.last :: c.queue, t.InCalendar

theorem InCalendar.now {c : Clock} (h : c.InCalendar) :
    c.now.1.InCalendar ∧ c.now.2.InCalendar := by
  obtain ⟨queue, last⟩ := c
  cases queue with
  | nil => exact ⟨h last List.mem_cons_self, h⟩
  | cons t rest => exact ⟨h t (by simp), fun s hs => h s (List.mem_cons_of_mem _ hs)⟩

theorem InCalendar.after {c : Clock} (h : c.InCalendar) (n : Nat) : (c.after n).InCalendar := by
  induction n with
  | zero => exact h
  | succ n ih => exact ih.now.2

theorem InCalendar.reading {c : Clock} (h : c.InCalendar) (n : Nat) :
    (c.reading n).InCalendar :=
  (h.after n).now.1

theorem total_span_lt {c : Clock} (h : c.InCalendar) (n : Nat) :
    (c.span n).total < Instant.longestSpan :=
  Instant.total_elapsed_lt (h.reading _) (h.reading _)

theorem inCalendar_ofInstants {instants : List Instant} (h : ∀ t ∈ instants, t.InCalendar) :
    (ofInstants instants).InCalendar := by
  cases instants with
  | nil => exact List.forall_mem_singleton.2 Instant.inCalendar_default
  | cons t rest => exact List.forall_mem_cons.2 ⟨h t List.mem_cons_self, h⟩

/-- What holds of all shifted instants holds of the instants of a list that is shifted. -/
theorem forall_mem_of_mapM {P : Instant → Prop} {shift : Int → Except Fault Instant}
    {offsets : List Int} {instants : List Instant} (h : ∀ ms t, shift ms = .ok t → P t)
    (shifted : offsets.mapM shift = .ok instants) : ∀ t ∈ instants, P t := by
  induction offsets generalizing instants with
  | nil =>
    obtain rfl := Except.ok.inj shifted
    simp
  | cons ms offsets ih =>
    rw [List.mapM_cons] at shifted
    cases first : shift ms with
    | error fault =>
      rw [first] at shifted
      cases shifted
    | ok t =>
      cases rest : offsets.mapM shift with
      | error fault =>
        rw [first, rest] at shifted
        cases shifted
      | ok others =>
        rw [first, rest] at shifted
        obtain rfl := Except.ok.inj shifted
        exact List.forall_mem_cons.2 ⟨h ms t first, ih rest⟩

/-- A clock that is made by shifting an instant of the calendar shows instants of the calendar
only. -/
theorem inCalendar_ofOffsets {base : Instant} {offsets : List Int} {c : Clock}
    (hb : base.InCalendar) (h : ofOffsets base offsets = .ok c) : c.InCalendar := by
  unfold ofOffsets at h
  cases shifted : offsets.mapM base.addMillis with
  | error fault =>
    rw [shifted] at h
    cases h
  | ok instants =>
    rw [shifted] at h
    obtain rfl := Except.ok.inj h
    apply inCalendar_ofInstants
    exact forall_mem_of_mapM (fun _ _ => Instant.inCalendar_addMillis hb) shifted

end Clock
end Reachability
